import ArenaThreads.Cells
/-! Environment variables: raw bytes under a name, which may or may not be text. -/

namespace ArenaThreads

abbrev Environment := Cells String (Option ByteArray)

namespace Environment

def unset : Environment := fun _ => none

def text? (env : Environment) (name : String) : Option String := (env name).bind String.fromUTF8?

end Environment

end ArenaThreads
