import Bootstrap.Host.Environment
import Bootstrap.Instant
import Bootstrap.Launch.Launcher
import Bootstrap.Payload

/-!
# Surroundings of an invocation

Everything that an invocation has to go on besides its options and the disk.
-/

namespace Bootstrap

structure Surroundings where
  payload : Payload
  host : Host
  launcher : Launch.Launcher
  now : Instant

end Bootstrap
