import ReplyTemplate.Json.Writer
import ReplyTemplate.Service

/-! The program: a request a line on standard input, a response a line on standard output. -/

namespace ReplyTemplate.Program

/-- The variable of the environment with the text that stands for a failed rendering. -/
def fallbackVariable : String := "CHATMACRO_FALLBACK"

/-- The variable with the path of the base table, a file of JSON. -/
def tableVariable : String := "CHATMACRO_MACROS_FILE"

/-- The base table, unless there is a file of it that cannot be read. -/
def readBase : IO (Option Table) := do
  match ← IO.getEnv tableVariable with
  | none => return some ∅
  | some path =>
    try return Table.ofJsonText? (← IO.FS.readFile path)
    catch _ => return none

/-- The bytes up to the end of a line; none are left at the end of the input. -/
partial def readLine (input : IO.FS.Stream) (line : ByteArray := .empty) : IO ByteArray := do
  let byte ← input.read 1
  if byte.isEmpty || byte.toList == [0x0A] then return line ++ byte
  readLine input (line ++ byte)

/-- Answers lines until the input ends or is not UTF-8. -/
partial def serve (service : Service) (input output : IO.FS.Stream)
    (counters : Standard.Counters := ∅) : IO Unit := do
  let line ← readLine input
  if line.isEmpty then return
  let some text := String.fromUTF8? line | return
  let (response, counters) := service.answerLine Service.explainNothing counters text
  if let some response := response then
    output.putStrLn response.toJson.text
    output.flush
  serve service input output counters

end ReplyTemplate.Program

open ReplyTemplate in
/-- Ends with code 1 if the base table cannot be read. -/
def main : IO UInt32 := do
  let some base ← Program.readBase | return 1
  let fallback := (← IO.getEnv Program.fallbackVariable).getD Service.defaultFallback
  Program.serve ⟨Standard.engine base, fallback⟩ (← IO.getStdin) (← IO.getStdout)
  return 0
