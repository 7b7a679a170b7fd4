/-!
# Byte strings

Everything that crosses the wire or is kept by a store is a list of bytes.
-/

namespace DownloadGateway

/-- A byte string. -/
abbrev Bytes := List UInt8

end DownloadGateway
