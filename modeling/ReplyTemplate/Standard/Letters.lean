import ReplyTemplate.Plugin
import ReplyTemplate.Standard.Argument
import ReplyTemplate.Text.Case

/-! Plugins that give back their argument, as it is or in one case. -/

namespace ReplyTemplate.Standard

open Plugin

variable {σ : Type}

def echoManual : Manual where
  name := "ECHO"
  description := "Output the raw argument unchanged"
  usage := "$(ECHO=text)"
  parameters := [⟨"text", "Text", "Text to output verbatim", some ""⟩]
  examples := ["$(ECHO=hello) → hello", "$(ECHO) → (empty)"]
  category := "text"

/-- A missing argument counts as empty. -/
def echo : Plugin σ := ofFunction echoManual fun argument => .ok (.text (argument.getD ""))

/-- Replaces the references in the required argument and changes the case of all letters. -/
def convert (manual : Manual) (change : String → String) : Plugin σ :=
  stateless manual fun argument context => do
    let text ← (requireArgument manual.name argument).mapError ArgumentError.message
    return .text (change (← context.substitute text))

/-- The parameter of the plugins that change the case. -/
def convertedText : Parameter :=
  ⟨"text", "Text", "Text to convert; %NAME:KEY% references are expanded", none⟩

def upperManual : Manual where
  name := "UPPER"
  description := "Convert text to uppercase"
  usage := "$(UPPER=text)"
  parameters := [convertedText]
  examples := ["$(UPPER=gg) → GG", "$(UPPER=%USER:NAME%) → GEO"]
  category := "text"

def upper : Plugin σ := convert upperManual Text.upper

def lowerManual : Manual where
  name := "LOWER"
  description := "Convert text to lowercase"
  usage := "$(LOWER=text)"
  parameters := [convertedText]
  examples := ["$(LOWER=GG) → gg"]
  category := "text"

def lower : Plugin σ := convert lowerManual Text.lower

end ReplyTemplate.Standard
