/-!
# Records as text

A record is a title and named fields, whose values are text already. It is
written on one line, or with one field a line.
-/

namespace SlabRings.Text

structure Record where
  title : String
  fields : List (String × String)

namespace Record

def compact (record : Record) : String :=
  let fields := record.fields.map fun (name, value) => name ++ ": " ++ value
  record.title ++ " \x7b " ++ ", ".intercalate fields ++ " \x7d"

def expanded (record : Record) : String :=
  let fields := record.fields.map fun (name, value) => "    " ++ name ++ ": " ++ value ++ ",\n"
  record.title ++ " \x7b\n" ++ String.join fields ++ "\x7d"

end Record

def bracketed (values : List String) : String :=
  "[" ++ ", ".intercalate values ++ "]"

def hexadecimal (value : Nat) : String :=
  "0x" ++ String.ofList (Nat.toDigits 16 value)

example : (Record.mk "Pair" [("left", "1"), ("right", "2")]).compact =
    "Pair \x7b left: 1, right: 2 \x7d" := by cbv

example : bracketed ["3", "0"] = "[3, 0]" := by cbv

example : hexadecimal 8192 = "0x2000" := by cbv

end SlabRings.Text
