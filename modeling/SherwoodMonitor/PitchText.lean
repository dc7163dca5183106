import SherwoodMonitor.Library.PyText

/-! What the pitch flow reads in a chat message (`telegram/flow.py`): a trade idea, a reply of
nothing but fire, "ship it", and which pitch a text names. `isWord` is the class `\w`. -/
namespace SherwoodMonitor.PitchText
open PyUnicode PyText

def isLetter (c : Char) : Bool := ('a' ≤ c && c ≤ 'z') || ('A' ≤ c && c ≤ 'Z')

def isLetterOrDigit (c : Char) : Bool := isLetter c || ('0' ≤ c && c ≤ '9')

/-- Whether a character matches a lower-case letter of a pattern under `re.IGNORECASE`. -/
def foldsTo (letter c : Char) : Bool :=
  c = letter || c.toNat + 32 = letter.toNat || (letter = 'i' && (c = 'İ' || c = 'ı')) ||
    (letter = 's' && c = 'ſ') || (letter = 'k' && c = '\u212a')

def foldsToAll : List Char → List Char → Bool
  | [], [] => true
  | p :: ps, c :: cs => foldsTo p c && foldsToAll ps cs
  | _, _ => false

/-- What is left behind the letters. -/
def afterLetters : List Char → List Char → Option (List Char)
  | [], l => some l
  | p :: ps, c :: l => if foldsTo p c then afterLetters ps l else none
  | _ :: _, [] => none

/-- The words of `_IDEA_WORDS_RE`. -/
def ideaWords : List String :=
  ["long", "short", "buy", "sell", "ape", "bid", "fade", "hedge", "rotate", "rotation", "trade",
   "position", "call", "calls", "put", "puts", "lever", "leverage", "stake", "farm", "yield", "bet",
   "accumulate", "dca", "swap", "breakout", "earnings", "pitch", "idea", "thesis", "undervalued",
   "overvalued", "moon"]

section
variable (isWord : Char → Bool)

/-- The rest of `_TICKER_RE` behind its `$`: up to ten letters and digits and the end of a word. -/
def ticker? : List Char → Option String
  | [] => none
  | c :: l =>
      let run := l.takeWhile isLetterOrDigit
      if isLetter c ∧ run.length ≤ 9 ∧ !(l.drop run.length).head?.any isWord then
        some (String.ofList ('$' :: c :: run))
      else none

/-- `_TICKER_RE.findall`, behind the character `before`. -/
def tickersFrom (before : Option Char) : List Char → List String
  | [] => []
  | c :: l =>
      (if c = '$' ∧ !before.any (fun b => isWord b || b = '$') then (ticker? isWord l).toList
        else []) ++ tickersFrom (some c) l

def tickers (text : String) : List String := tickersFrom isWord none text.toList

/-- `_MENTION_RE.findall`. -/
def mentionsIn : List Char → List String
  | [] => []
  | c :: l =>
      (if c = '@' ∧ l.head?.any isWord then [String.ofList ('@' :: l.takeWhile isWord)] else []) ++
        mentionsIn l

/-- `_MENTION_RE.sub(" ", text)`; `inside` while a mention goes on. -/
def dropMentions (inside : Bool) : List Char → List Char
  | [] => []
  | c :: l =>
      if inside && isWord c then dropMentions true l
      else if c = '@' ∧ l.head?.any isWord then ' ' :: dropMentions true l
      else c :: dropMentions false l

/-- `is_trade_idea`. -/
def isTradeIdea (text : String) : Bool :=
  !(tickers isWord text).isEmpty ||
    (text.toList.splitOnP fun c => !isWord c).any fun run =>
      ideaWords.any fun word => foldsToAll word.toList run

/-- `is_ship_it`. -/
def isShipIt (text : String) : Bool :=
  let said := (stripChars (dropMentions isWord false text.toList)).dropWhile fun c => !isWord c
  match afterLetters "ship".toList said with
  | none => false
  | some l =>
      match afterLetters "it".toList (l.dropWhile isSpace) with
      | none => false
      | some rest => !rest.head?.any isWord

/-- `_names_pitch`. -/
def namesPitch (said pitchText authorName : String) : Bool :=
  let wanted := (tickers isWord pitchText).map upper
  let handle := lower authorName
  ((tickers isWord said).map upper).any (· ∈ wanted) ||
    (startsWith handle "@" && ((mentionsIn isWord said.toList).map lower).contains handle)

end

/-- One fire or more up to the end of the text. -/
def onlyFires (emoji : List Char) : ℕ → List Char → Bool
  | 0, _ => false
  | n + 1, l =>
      if emoji.isPrefixOf l then
        let rest := l.drop emoji.length
        let rest := if rest.head? = some '\ufe0f' then rest.tail else rest
        let rest := rest.dropWhile isSpace
        rest.isEmpty || onlyFires emoji n rest
      else false

/-- `_fire_only.match`, for an emoji that begins with neither a space nor a variation selector. -/
def isOnlyFire (emoji text : String) : Bool :=
  onlyFires emoji.toList text.toList.length (text.toList.dropWhile isSpace)

end SherwoodMonitor.PitchText
