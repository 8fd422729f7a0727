import ReplyTemplate.Json.Writer

/-! JSON text has no line breaks. -/

namespace ReplyTemplate.Json

end ReplyTemplate.Json
