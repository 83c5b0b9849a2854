import Phrasebook.Text.WidthTable

/-!
The number of terminal columns a text takes. Some sequences take fewer or more columns than their
characters do one by one: emoji joined or styled by selectors, and ligatures of a few scripts. A text
is measured from its end, where what a character is joined to on its right is known.
-/
namespace Phrasebook.Text

/-- The columns of a single character. Controls have none. -/
def charWidth? (c : Char) : Option Nat :=
  let n := c.toNat
  if n < 0x20 then none
  else if n < 0x7f then some 1
  else if n < 0xa0 then none
  else if inRanges zeroWidthRanges c then some 0
  else if inRanges wideRanges c then some 2
  else if n = 0x17d8 then some 3
  else some 1

/-- What a text begins with, as far as the character before it may join it. -/
inductive Start where
  | plain
  | lineFeed
  | emoji
  | skinTone
  /-- A regional indicator, two of which are a flag. -/
  | flagLetter
  | flagLetters
  /-- A joiner and an emoji. -/
  | joinedEmoji
  /-- An enclosing keycap before them. -/
  | joinedKeycap
  /-- Regional indicators before them. -/
  | joinedFlagLetter
  | joinedFlags
  | joinedFlagsLetter
  /-- The end of a tag sequence before them, behind so many letters of it. -/
  | joinedTags (letters : Nat)
  /-- The same, with digits before the letters. -/
  | joinedTagDigits (digits : Nat)
  | alef
  | lamed (joined : Bool)
  | buginese (joined : Bool)
  | bugineseVowel
  | tifinagh (joined : Bool)
  | tifinaghJoiner
  | lowTone
  | orkhon (joined : Bool)
  | coengLetter
  | raiE
  | raiAi
  deriving DecidableEq, Repr

/-- What a variation selector asks of the character before it. -/
inductive Style where
  | usual
  | emoji
  | text
  | full
  deriving DecidableEq, Repr

structure Following where
  start : Start
  style : Style := .usual
  deriving DecidableEq, Repr

def Following.plain : Following :=
  ⟨.plain, .usual⟩

/-- Whether a text begins with a part of a ligature, which variation selectors do not break. -/
def Start.isLetter : Start → Bool
  | .alef | .lamed _ | .buginese _ | .bugineseVowel | .tifinagh _ | .tifinaghJoiner | .lowTone
  | .orkhon _ | .coengLetter | .raiE | .raiAi => true
  | _ => false

/-- Puts a variation selector in front. Emoji sequences go on behind the emoji style only. -/
def Following.styled (next : Following) (style : Style) : Following :=
  if next.start.isLetter ∨ (style = .emoji ∧ next.start ∈ [.joinedEmoji, .joinedKeycap]) then
    { next with style }
  else ⟨.plain, style⟩

def Following.unstyled (next : Following) : Following :=
  if next.style = .usual then next
  else ⟨if next.start.isLetter then next.start else .plain, .usual⟩

def Start.joined : Start → Start
  | .lamed _ => .lamed true
  | .buginese _ => .buginese true
  | .tifinagh _ => .tifinagh true
  | .orkhon _ => .orkhon true
  | start => start

def isSkinTone (c : Char) : Bool :=
  0x1f3fb ≤ c.toNat && c.toNat ≤ 0x1f3ff

def isFlagLetter (c : Char) : Bool :=
  0x1f1e6 ≤ c.toNat && c.toNat ≤ 0x1f1ff

def isTagLetter (c : Char) : Bool :=
  0xe0061 ≤ c.toNat && c.toNat ≤ 0xe007a

def isTagDigit (c : Char) : Bool :=
  0xe0030 ≤ c.toNat && c.toNat ≤ 0xe0039

def isTifinagh (c : Char) : Bool :=
  (0x2d31 ≤ c.toNat && c.toNat ≤ 0x2d65) || c.toNat = 0x2d6f

/-- Whether a variation selector shows the character as an emoji. -/
def takesEmojiStyle (c : Char) : Bool :=
  inRanges textEmojiRanges c || inRanges textStyleRanges c

/-- Quotation marks that a variation selector makes as wide as an ideograph. -/
def takesFullStyle (c : Char) : Bool :=
  c ∈ ['‘', '’', '“', '”']

def lamRanges : List (Nat × Nat) :=
  [(0x644, 0x644), (0x6b5, 0x6b8), (0x76a, 0x76a), (0x8a6, 0x8a6), (0x8c7, 0x8c7)]

def alefRanges : List (Nat × Nat) :=
  [(0x622, 0x623), (0x625, 0x625), (0x627, 0x627), (0x671, 0x673), (0x675, 0x675), (0x773, 0x774),
  (0x870, 0x882)]

/-- Khmer letters that take no column below a coeng sign. -/
def coengRanges : List (Nat × Nat) :=
  [(0x1780, 0x1782), (0x1784, 0x1787), (0x1789, 0x178c), (0x178e, 0x1793), (0x1795, 0x1798),
  (0x179b, 0x179d), (0x17a0, 0x17a0), (0x17a2, 0x17a2), (0x17a7, 0x17a7), (0x17ab, 0x17ac),
  (0x17af, 0x17af)]

/-- Marks that show nothing of themselves, such as variation selectors. -/
def invisibleMarkRanges : List (Nat × Nat) :=
  [(0x34f, 0x34f), (0x17b4, 0x17b5), (0x180b, 0x180d), (0x180f, 0x180f), (0xfe00, 0xfe0f),
  (0xe0100, 0xe01ef)]

/-- What a character is to the one before it, where nothing behind it changes that. -/
def startOf (c : Char) : Start :=
  let n := c.toNat
  if isSkinTone c then .skinTone
  else if isFlagLetter c then .flagLetter
  else if inRanges colourEmojiRanges c then .emoji
  else if inRanges alefRanges c then .alef
  else if n = 0x5dc then .lamed false
  else if n = 0x1a10 then .buginese false
  else if isTifinagh c then .tifinagh false
  else if n = 0xa4fc ∨ n = 0xa4fd then .lowTone
  else if n = 0x10c03 then .orkhon false
  else if inRanges coengRanges c then .coengLetter
  else if n = 0x16d67 then .raiE
  else if n = 0x16d68 then .raiAi
  else .plain

/-- The columns a character adds on its own, and what it is to the one before it. -/
def aloneWidth (c : Char) : Int × Following :=
  ((charWidth? c).getD 1, ⟨startOf c, .usual⟩)

/-- The columns that an emoji or a part of one adds to the emoji it is joined to. -/
def emojiWidth? (c : Char) : Start → Option (Int × Start)
  | .skinTone =>
    if inRanges modifierBaseRanges c then some (0, .emoji)
    else if c.toNat = 0x200d then some (0, .joinedEmoji)
    else none
  | .emoji => if c.toNat = 0x200d then some (0, .joinedEmoji) else none
  | .flagLetter => if isFlagLetter c then some (1, .flagLetters) else none
  | .flagLetters =>
    if isFlagLetter c then some (1, .flagLetters)
    else if c.toNat = 0x200d then some (0, .joinedEmoji)
    else none
  | .joinedEmoji =>
    if c.toNat = 0x20e3 then some (0, .joinedKeycap)
    else if isFlagLetter c then some (1, .joinedFlagLetter)
    else if isSkinTone c then some (0, .skinTone)
    else if c.toNat = 0xe007f then some (0, .joinedTags 0)
    else if inRanges colourEmojiRanges c then some (0, .emoji)
    else none
  | .joinedFlagLetter => if isFlagLetter c then some (-1, .joinedFlags) else none
  | .joinedFlags =>
    if isFlagLetter c then some (3, .joinedFlagsLetter)
    else if c.toNat = 0x200d then some (0, .joinedEmoji)
    else none
  | .joinedFlagsLetter =>
    if isFlagLetter c then some (-1, .joinedFlags)
    else if c.toNat = 0x200d then some (0, .joinedEmoji)
    else none
  | .joinedTags letters =>
    if isTagLetter c ∧ letters < 6 then some (0, .joinedTags (letters + 1))
    else if isTagDigit c ∧ letters < 5 then some (0, .joinedTagDigits 1)
    else if c.toNat = 0x1f3f4 ∧ 3 ≤ letters then some (0, .emoji)
    else none
  | .joinedTagDigits digits =>
    if isTagDigit c ∧ digits < 3 then some (0, .joinedTagDigits (digits + 1))
    else if c.toNat = 0x1f3f4 ∧ digits = 3 then some (0, .emoji)
    else none
  | _ => none

/-- The columns that a letter or a mark adds to the ligature it begins or belongs to. -/
def ligatureWidth? (c : Char) : Start → Option (Int × Start)
  | .alef =>
    if inRanges lamRanges c then some (0, .plain)
    else if inRanges zeroWidthRanges c ∧ !inRanges joinBreakingRanges c then some (0, .alef)
    else none
  | .lamed true => if c.toNat = 0x5d0 then some (0, .plain) else none
  | .buginese true => if c.toNat = 0x1a17 then some (0, .bugineseVowel) else none
  | .bugineseVowel => if c.toNat = 0x1a15 then some (0, .plain) else none
  | .tifinagh joined =>
    if c.toNat = 0x2d7f then some (1, .tifinaghJoiner)
    else if joined ∧ isTifinagh c then some (0, .plain)
    else none
  | .tifinaghJoiner => if isTifinagh c then some (-1, .plain) else none
  | .lowTone => if 0xa4f8 ≤ c.toNat ∧ c.toNat ≤ 0xa4fb then some (0, .plain) else none
  | .orkhon true => if c.toNat = 0x10c32 then some (0, .plain) else none
  | .coengLetter => if c.toNat = 0x17d2 then some (-1, .plain) else none
  | .raiE =>
    if c.toNat = 0x16d63 ∨ c.toNat = 0x16d69 then some (0, .plain)
    else if c.toNat = 0x16d67 then some (0, .raiAi)
    else if c.toNat = 0x16d68 then some (1, .raiE)
    else none
  | .raiAi => if c.toNat = 0x16d63 then some (0, .plain) else none
  | _ => none

/-- The columns a character adds to the text behind it, which has no selector in front. -/
def widthBeforeStart (c : Char) (start : Start) : Int × Following :=
  let isMark := c.toNat = 0x200d || inRanges invisibleMarkRanges c
  if isMark ∧ start.isLetter ∧ start ≠ .alef then
    (0, ⟨if c.toNat = 0x200d then start.joined else start, .usual⟩)
  else
    match ligatureWidth? c start <|> emojiWidth? c start with
    | some (columns, start) => (columns, ⟨start, .usual⟩)
    | none => aloneWidth c

def widthBefore (c : Char) (next : Following) : Int × Following :=
  let n := c.toNat
  if next.style = .emoji ∧ takesEmojiStyle c then
    (if next.start ∈ [.joinedEmoji, .joinedKeycap] then 0 else 2, ⟨.emoji, .usual⟩)
  else if n ≤ 0xa0 then
    if c = '\n' then (1, ⟨.lineFeed, .usual⟩)
    else if c = '\r' ∧ next = ⟨.lineFeed, .usual⟩ then (0, .plain)
    else (1, .plain)
  else if n = 0xfe0f then
    (0, (if next.style = .emoji then next.unstyled else next).styled .emoji)
  else if n = 0xfe0e then
    (0, (if next.style = .emoji then next.unstyled else next).styled .text)
  else if n = 0xfe01 then (0, next.unstyled.styled .full)
  else if next.style = .text ∧ inRanges textStyleRanges c then (1, .plain)
  else if next.style = .full ∧ takesFullStyle c then (2, .plain)
  else widthBeforeStart c next.unstyled.start

def measure : List Char → Int × Following
  | [] => (0, .plain)
  | c :: cs =>
    let (columns, next) := measure cs
    let (added, this) := widthBefore c next
    (added + columns, this)

def width (s : List Char) : Nat :=
  (measure s).1.toNat

end Phrasebook.Text
