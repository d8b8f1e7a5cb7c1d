import HeapReplay.Text.Numeral

namespace HeapReplay.Text

/-- The ASCII characters that can steer a terminal: bell, backspace, form feed,
    escape and delete. -/
def steeringCodes : List Nat := [0x07, 0x08, 0x0c, 0x1b, 0x7f]

/-- A character as it stands in a log. Those that can steer a terminal, among them
    all from U+0080 to U+009F, are named by their code. -/
def disarm (c : Char) : String :=
  let code := c.toNat
  if steeringCodes.contains code then
    "\\x" ++ (if code < 0x10 then "0" else "") ++ hexadecimal code
  else if 0x80 ≤ code && code ≤ 0x9f then "\\u\x7b" ++ hexadecimal code ++ "\x7d"
  else c.toString

/-- A text without characters that can steer a terminal. -/
def disarmed (text : String) : String := text.foldl (fun safe c => safe ++ disarm c) ""

end HeapReplay.Text
