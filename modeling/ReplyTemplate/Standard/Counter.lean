import ReplyTemplate.Plugin
import ReplyTemplate.Standard.Argument

/-! The plugin that counts its invocations by name. -/

namespace ReplyTemplate.Standard

open Plugin

/-- The counts so far; a name that is not there has count 0. -/
abbrev Counters := Std.ExtTreeMap String Nat

def Counters.count (counters : Counters) (name : String) : Nat := counters.getD name 0

def Counters.increment (counters : Counters) (name : String) : Counters :=
  counters.insert name (counters.count name + 1)

def counterManual : Manual where
  name := "COUNTER"
  description := "Increment a named counter and bind its new value"
  usage := "$(COUNTER=name|...%COUNTER:COUNT%...)"
  parameters := [⟨"name", "Text", "Counter name, a single word", none⟩]
  provides := ["NAME", "COUNT"]
  examples := ["$(COUNTER=deaths|Deaths: %COUNTER:COUNT%) → Deaths: 3"]
  category := "state"

/-- The name of a counter is one word. -/
def counterName (argument : Option String) : Except ArgumentError String := do
  let word ← requireTrimmed counterManual.name argument
  let name := String.ofList word
  if word.any Text.isBlank then
    .error (.invalid counterManual.name s!"counter name `{name}` must be a single word")
  else
    .ok name

/-- A refused name counts nothing. A counter that is registered anew starts from nothing. -/
def counter : Plugin Counters where
  manual := counterManual
  invoke argument _ counters :=
    match counterName argument with
    | .error error => (.error error.message, counters)
    | .ok name =>
      let counters := counters.increment name
      (.ok (.bindings [("NAME", name), ("COUNT", toString (counters.count name))]), counters)
  enroll _ := ∅

theorem Counters.count_increment (counters : Counters) (name other : String) :
    (counters.increment name).count other =
      if name = other then counters.count name + 1 else counters.count other := by
  simp [count, increment, Std.ExtTreeMap.getD_insert, Std.LawfulEqCmp.compare_eq_iff_eq]

end ReplyTemplate.Standard
