import Keyutils.Rust
import Keyutils.Utf8
import Keyutils.Kernel
import Keyutils.Description
import Keyutils.Buffer
import Keyutils.Ops
import Keyutils.Read
import Keyutils.Manager
import Keyutils.Errors
