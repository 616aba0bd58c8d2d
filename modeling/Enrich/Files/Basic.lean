/-!
# Files

What a program can find out about files: for every path, whether there is anything, and if so what
it holds.
-/

namespace Enrich

/-- What is found at a path. -/
inductive Found where
  | nothing
  /-- Something that is no file, or a path that cannot be followed. -/
  | unreadable
  | file (content : ByteArray)

/-- What is found at every path. -/
abbrev Files := String → Found

/-- The text of a file. -/
def Found.text? : Found → Option String
  | file content => String.fromUTF8? content
  | _ => none

end Enrich
