import ReplyTemplate.Report

/-! What can go wrong between a template and its output. -/

namespace ReplyTemplate

inductive TemplateError where
  /-- The call opened at the byte `offset` is never closed; `name` is what was read of its name. -/
  | unterminated (name : String) (offset : Nat)
  | emptyName (offset : Nat)
  | nestingTooDeep (offset limit : Nat)
  /-- `similar` holds the registered names that may have been meant, the likeliest first. -/
  | unknownPlugin (name : String) (similar : List String)
  | unknownMacro (name : String)
  | unknownKey (name key : String)
  /-- The plugin gave bindings to a call without a scope to use them in. -/
  | missingScope (plugin : String)
  | pluginFailed (plugin reason : String)
deriving DecidableEq, Repr

namespace TemplateError

def code : TemplateError → String
  | unterminated .. => "UNTERMINATED_MACRO"
  | emptyName .. => "EMPTY_MACRO_NAME"
  | nestingTooDeep .. => "NESTING_TOO_DEEP"
  | unknownPlugin .. => "UNKNOWN_PLUGIN"
  | unknownMacro .. => "UNKNOWN_MACRO"
  | unknownKey .. => "UNKNOWN_MACRO_KEY"
  | missingScope .. => "MISSING_SCOPE"
  | pluginFailed .. => "PLUGIN_ERROR"

def message : TemplateError → String
  | unterminated name offset => s!"unterminated macro `{name}` opened at byte {offset}"
  | emptyName offset => s!"macro at byte {offset} has no name"
  | nestingTooDeep offset limit =>
    s!"macro at byte {offset} is nested more than {limit} scopes deep"
  | unknownPlugin name _ => s!"unknown plugin `{name}`"
  | unknownMacro name => s!"unknown macro `{name}`"
  | unknownKey name key => s!"unknown macro key `{name}:{key}`"
  | missingScope plugin => s!"plugin `{plugin}` returned bindings but the macro has no scope"
  | pluginFailed plugin reason => s!"plugin `{plugin}` failed: {reason}"

/-- Names that may have been meant, as a hint; `none` if there are no names. -/
def similarHint (names : List String) : Option String :=
  if names.isEmpty then none else some ("Similar: " ++ ", ".intercalate names)

/-- The number of similar names that an error suggests. -/
def suggestedNames : Nat := 5

def suggestion : TemplateError → Option String
  | unterminated .. => some "Close the macro with `)` or escape the `$(` as `\\$(`"
  | emptyName .. => some "Write the plugin name right after `$(`"
  | nestingTooDeep _ limit => some s!"Keep `$(...|...)` scopes within {limit} levels"
  | unknownPlugin _ similar => similarHint (similar.take suggestedNames)
  | unknownMacro name => some s!"Run a `$({name}...|...)` plugin before referencing it"
  | unknownKey name _ => some s!"Check which keys `{name}` provides"
  | missingScope plugin => some s!"Use `$({plugin}=...|...)` and reference its keys in the scope"
  | pluginFailed .. => none

def report (error : TemplateError) : Report := ⟨error.code, error.message, error.suggestion⟩

/-- Whether the template could not be read, rather than evaluated. -/
def isSyntax : TemplateError → Bool
  | unterminated .. | emptyName .. | nestingTooDeep .. => true
  | _ => false

/-- The same error in a template that has `bytes` more bytes in front. -/
def shift (bytes : Nat) : TemplateError → TemplateError
  | unterminated name offset => unterminated name (bytes + offset)
  | emptyName offset => emptyName (bytes + offset)
  | nestingTooDeep offset limit => nestingTooDeep (bytes + offset) limit
  | error => error

end TemplateError

end ReplyTemplate
