/-! # Alphabetical lists

Lists of named values in the order of their names, which is that of the code points. -/

namespace ScriptedRobot.Text

/-- Insert into an alphabetical list; a name that is already there gets the new value. -/
def insertSorted {α : Type} (name : String) (value : α) : List (String × α) → List (String × α)
  | [] => [(name, value)]
  | (other, old) :: rest =>
    if name < other then (name, value) :: (other, old) :: rest
    else if name = other then (name, value) :: rest
    else (other, old) :: insertSorted name value rest

end ScriptedRobot.Text
