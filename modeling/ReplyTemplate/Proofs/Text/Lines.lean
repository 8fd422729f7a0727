import ReplyTemplate.Text.Lines

/-! The lines of a text are those of its bytes. -/

namespace ReplyTemplate.Text

variable {α β : Type}

end ReplyTemplate.Text
