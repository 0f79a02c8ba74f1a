import Peg.Json
import Peg.Options

/-!
# Options from JSON

Options are an object whose members are named for the settings. A setting that is `null` is not
set, a member of another name is ignored, and of two settings of one name the last one counts.
-/

namespace Peg.Options

/-- The options with one more member of the object, unless its value is not of the right kind. -/
def set? (o : Options) (key : String) (value : Json) : Option Options :=
  match key, value with
  | "entry", .null => some { o with entry := none }
  | "entry", .string s => some { o with entry := some s }
  | "entry", _ => none
  | "neighborhood", .null => some { o with neighborhood := none }
  | "neighborhood", v => v.natural?.map fun n => { o with neighborhood := some n }
  | "lenient_discard", .null => some { o with lenientDiscard := false }
  | "lenient_discard", .bool b => some { o with lenientDiscard := b }
  | "lenient_discard", _ => none
  | "max_depth", .null => some { o with maxDepth := none }
  | "max_depth", v => v.natural?.map fun n => { o with maxDepth := some n }
  | _, _ => some o

/-- The options of a JSON document. -/
def ofJson? (text : String) : Option Options :=
  match Json.parse? text with
  | some .null => some {}
  | some (.object members) => members.foldlM (fun o (key, value) => o.set? key value) {}
  | _ => none

end Peg.Options
