import Enclosure.Settings
import Enclosure.Text.Quoted

/-!
# Settings shown for inspection

The command line can show the settings it uses. Every field is named, also those
that have their default, and texts are quoted so that nothing in them is
mistaken for layout.
-/

set_option autoImplicit false

namespace Enclosure

/-- The name of a policy as it is shown for inspection. -/
def Policy.shown : Policy → String
  | outermost => "Outermost"
  | innermost => "Innermost"

/-- A list of texts shown for inspection. -/
def Text.shownList (texts : List String) : String :=
  "[" ++ ", ".intercalate (texts.map Text.shown) ++ "]"

/-- The adjustments for one language shown for inspection. -/
def Override.shown (entry : Override) : String :=
  let structural :=
    match entry.structuralKinds with
    | none => "None"
    | some kinds => "Some(" ++ Text.shownList kinds ++ ")"
  "LanguageOverride \x7b structural_kinds: " ++ structural ++ ", extra_kinds: "
    ++ Text.shownList entry.extraKinds ++ " \x7d"

/-- Settings shown for inspection. -/
def Settings.shown (settings : Settings) : String :=
  let languages := settings.languages.entries.map fun (name, entry) =>
    Text.shown name ++ ": " ++ entry.shown
  "ContextConfig \x7b policy: " ++ settings.policy.shown ++ ", languages: \x7b"
    ++ ", ".intercalate languages ++ "\x7d \x7d"

end Enclosure
