import ArenaThreads.Event
import ArenaThreads.Text.Quoted
/-! Events as lines of a log: the message and then the fields, or a record of all of them. -/

namespace ArenaThreads

namespace FieldValue

/-- Text in quotes, numbers in decimal; an address shows only that it is one. -/
def written : FieldValue → String
  | .text content => String.ofList (Text.Quoted.encode content.toList)
  | .number value | .threadId value => toString value
  | .flag value => if value then "true" else "false"
  | .address _ => "ADDR"

end FieldValue

namespace Event

def text (event : Event) : String :=
  event.fields.foldl (fun line (name, value) => line ++ " " ++ name ++ "=" ++ value.written)
    event.message

end Event

end ArenaThreads
