import FrameConsole.Commands
import FrameConsole.Prompt
import Mathlib.Logic.Basic
import Mathlib.Tactic.Lemma

/-!
# The standard commands

The commands of the standard registry by their names.

## Main results

* `FrameConsole.Registry.find?_standard` — the command of each name.
-/

namespace FrameConsole

variable {α : Type}

/-- The commands that the names of the standard registry call. -/
lemma Registry.entries_standard :
    (Registry.standard : Registry α).bindings.entries =
      [("connect", .connect), ("disconnect", .disconnect), ("send", .sendText), ("s", .sendText),
        ("binary", .sendBinary), ("b", .sendBinary), ("vars", .listVariables)] := by
  rfl

/-- The command of each name. -/
lemma Registry.find?_standard (name : String) :
    (Registry.standard : Registry α).find? name =
      if name = "connect" then some .connect
      else if name = "disconnect" then some .disconnect
      else if name = "send" ∨ name = "s" then some .sendText
      else if name = "binary" ∨ name = "b" then some .sendBinary
      else if name = "vars" then some .listVariables
      else none := by
  rw [Registry.find?, Bindings.get?, Registry.entries_standard]
  simp only [lookup_cons_eq_ite, List.lookup_nil, ite_or]

end FrameConsole
