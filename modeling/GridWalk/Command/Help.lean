import GridWalk.Command.Form

namespace GridWalk

def programName : String := "mapgoblin"

-- A titled list of things and what they are for.
structure HelpList where
  title : String
  rows : List (String × String)

namespace HelpList

def widest (list : HelpList) : Nat := (list.rows.map fun row => row.1.length).foldl max 0

def padded (width : Nat) (text : String) : String :=
  text ++ String.ofList (List.replicate (width - text.length) ' ')

-- The things stand in one column, and what they are for in another.
def lines (list : HelpList) : List String :=
  (list.title ++ ":") ::
    list.rows.map fun (thing, about) => s!"  {padded list.widest thing}  {about}"

end HelpList

-- A page of help. Lists without rows are left out.
def helpPage (about usage : String) (lists : List HelpList) : String :=
  let filled := lists.filter fun list => !list.rows.isEmpty
  "\n\n".intercalate
    ([about, s!"Usage: {programName} {usage}"] ++
      filled.map fun list => "\n".intercalate list.lines)

def helpRow : String × String := ("-h, --help", "Print help")

namespace Form

variable {δ : Type}

-- A name without a letter of its own is indented to where names stand that have
-- one.
def switchRow : Switch δ → String × String
  | .flag label about _ => ("    " ++ label, about)
  | .valued argument => ("    " ++ argument.label, argument.about)

def usage (form : Form δ) : String :=
  " ".intercalate
    ([form.name] ++ (if form.switches.isEmpty then [] else ["[OPTIONS]"]) ++
      form.positionals.map Argument.label)

def page (form : Form δ) : String :=
  helpPage form.about form.usage
    [ ⟨"Arguments", form.positionals.map fun argument => (argument.label, argument.about)⟩,
      ⟨"Options", form.switches.map (fun switch => switchRow switch.2) ++ [helpRow]⟩ ]

end Form

end GridWalk
