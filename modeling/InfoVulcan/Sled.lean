import InfoVulcan.Library.Codec
import InfoVulcan.Library.Transaction

/-!
# The embedded database

`Sled` is the database both services keep their data in: one ordered byte-string map per tree
name, with operations that succeed.
-/

namespace InfoVulcan

/-- The embedded database. Opening a tree that holds nothing is not observable. -/
abbrev Sled := Keyspace String Bytes Bytes

/-- A cell of the embedded database. -/
abbrev SledCell := Cell String Bytes

/-- A write of the embedded database. -/
abbrev SledWrite := Write String Bytes Bytes

end InfoVulcan
