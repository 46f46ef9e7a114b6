namespace GridWalk

-- Why a value is refused: as if it had not been given, or for a reason.
inductive Rejection where
  | blank
  | because (reason : String)

-- An argument that takes a value, and how the value is stored in a draft of the
-- command. The label is how messages name the argument, and `about` is what it
-- is for.
structure Argument (δ : Type) where
  label : String
  about : String
  repeatable : Bool
  store : String → δ → Except Rejection δ

inductive Switch (δ : Type) where
  | flag (label about : String) (set : δ → δ)
  | valued (argument : Argument δ)

-- The arguments of a command: those known by their position, all of them
-- required, and those known by their name.
structure Form (δ : Type) where
  name : String
  about : String
  positionals : List (Argument δ)
  switches : List (String × Switch δ)

end GridWalk
