/-
The regular expressions by which the PAM backend guesses what a prompt asks
for.  All but one search for one of a few words, case-insensitively and
between word boundaries; boundaries see ASCII word characters only, while
case folding follows Unicode, where `k` and `s` have one more variant each.
-/
import PlasmaLogin.AuthMessages

namespace PlasmaLogin

/-- `msg_style` of a PAM message. -/
inductive MsgStyle where
  | promptEchoOff
  | promptEchoOn
  | errorMsg
  | textInfo
  | other (style : Int)
deriving DecidableEq, Repr

/-- `struct pam_message`, its text decoded with `QString::fromLocal8Bit`. -/
structure PamMessage where
  style : MsgStyle
  text : QString
deriving DecidableEq, Repr

/-- Messages that ask for an answer. -/
def PamMessage.isPrompt (msg : PamMessage) : Bool :=
  msg.style = .promptEchoOff || msg.style = .promptEchoOn

namespace PromptPatterns

/-- `\w` without Unicode properties. -/
def isWordChar (c : UInt16) : Bool :=
  (48 ≤ c && c ≤ 57) || (65 ≤ c && c ≤ 90) || c = 95 || (97 ≤ c && c ≤ 122)

/-- `\b` between two neighbouring characters. -/
def boundary (before after : Option UInt16) : Bool :=
  before.any isWordChar != after.any isWordChar

/-- A lower-case pattern character against a subject character. -/
def foldEq (pattern c : UInt16) : Bool :=
  c = pattern || (97 ≤ pattern && pattern ≤ 122 && c = pattern - 32) ||
    (pattern = 107 && c = 0x212A) || (pattern = 115 && c = 0x17F)

/-- One word of the pattern at the front of `rest`, with `before` the
character to its left. -/
def wordAt (before : Option UInt16) (rest word : QString) : Bool :=
  let found := rest.take word.length
  found.length = word.length && (word.zip found).all (fun p => foldEq p.1 p.2)
    && boundary before found.head? &&
    boundary found.getLast? (rest.drop word.length).head?

/-- Search from the character after `before` onwards. -/
def searchFrom (words : List QString) : Option UInt16 → QString → Bool
  | before, [] => words.any (wordAt before [])
  | before, c :: rest =>
      words.any (wordAt before (c :: rest)) || searchFrom words (some c) rest

/-- `\b(w1|…|wn)\b` with `CaseInsensitiveOption`. -/
def hasWord (words : List QString) (subject : QString) : Bool :=
  searchFrom words none subject

/-- `\bpassword\b`. -/
def asksPassword (message : QString) : Bool :=
  hasWord [("password" : QString)] message

/-- `\b(re-?(enter|type)|again|confirm|repeat)\b`. -/
def asksRepeat (message : QString) : Bool :=
  hasWord [("reenter" : QString), ("re-enter" : QString), ("retype" : QString),
    ("re-type" : QString), ("again" : QString), ("confirm" : QString),
    ("repeat" : QString)] message

/-- `\bnew\b`. -/
def asksNew (message : QString) : Bool := hasWord [("new" : QString)] message

/-- `\b(old|current)\b`. -/
def asksCurrent (message : QString) : Bool :=
  hasWord [("old" : QString), ("current" : QString)] message

/-- `^Changing password for [^ ]+$`. -/
def announcesPasswordChange (message : QString) : Bool :=
  let announcement : QString := "Changing password for "
  let name := message.drop announcement.length
  announcement.isPrefixOf message && !name.isEmpty && !name.contains 32

end PromptPatterns

open PromptPatterns in
/-- `PamData::detectPrompt`. -/
def PamData.detectPrompt (msg : PamMessage) : PromptType :=
  if msg.style = .promptEchoOff then
    if asksPassword msg.text then
      if asksRepeat msg.text then .changeRepeat
      else if asksNew msg.text then .changeNew
      else if asksCurrent msg.text then .changeCurrent
      else .loginPassword
    else .unknown
  else .loginUser

namespace PamData

@[simp] theorem detectPrompt_ne_none (msg : PamMessage) :
    detectPrompt msg ≠ .none := by
  unfold detectPrompt
  split_ifs <;> decide

/-- Only prompts that may be shown are taken for the user name; so is every
message that is no prompt at all. -/
theorem detectPrompt_eq_loginUser_iff (msg : PamMessage) :
    detectPrompt msg = .loginUser ↔ msg.style ≠ .promptEchoOff := by
  unfold detectPrompt
  split_ifs with hstyle <;> simp [hstyle]

end PamData

example : PamData.detectPrompt ⟨.promptEchoOff, "Retype new password: "⟩ =
    .changeRepeat := by decide

example : PamData.detectPrompt ⟨.promptEchoOff, "(current) UNIX password: "⟩ =
    .changeCurrent := by decide

example : PamData.detectPrompt ⟨.promptEchoOff, "Passwords: "⟩ =
    .unknown := by decide

end PlasmaLogin
