/-
Splitting a command line into its arguments.  Spaces separate the arguments,
a quote character groups, and three quotes in a row stand for the character
itself.
-/
import Mathlib.Data.List.Basic
import Mathlib.Data.List.Count

namespace QuoteSplit

universe u

variable {C : Type u} [DecidableEq C]

/-- The state of the splitter between two characters. -/
structure Splitter (C : Type u) where
  args : List (List C) := []
  tmp : List C := []
  quoteCount : Nat := 0
  inQuote : Bool := false
deriving DecidableEq

namespace Splitter

/-- The quotes read last are over: a single one begins or ends a group. -/
def endQuotes (s : Splitter C) : Splitter C :=
  { s with
    quoteCount := 0
    inQuote := if s.quoteCount = 1 then !s.inQuote else s.inQuote }

/-- The argument read so far is complete, if there is one. -/
def endArgument (s : Splitter C) : Splitter C :=
  if s.tmp.isEmpty then s else { s with args := s.args ++ [s.tmp], tmp := [] }

variable (quote : C) (isSpace : C → Bool)

def read (s : Splitter C) (c : C) : Splitter C :=
  if c = quote then
    if s.quoteCount + 1 = 3 then { s with quoteCount := 0, tmp := s.tmp ++ [c] }
    else { s with quoteCount := s.quoteCount + 1 }
  else if !s.endQuotes.inQuote && isSpace c then s.endQuotes.endArgument
  else { s.endQuotes with tmp := s.tmp ++ [c] }

/-- The characters that have become part of an argument. -/
def taken (s : Splitter C) : List C := s.args.flatten ++ s.tmp

end Splitter

/-- The arguments of a command line. -/
def split (quote : C) (isSpace : C → Bool) (command : List C) :
    List (List C) :=
  (command.foldl (Splitter.read quote isSpace) {}).endArgument.args

variable {quote : C} {isSpace : C → Bool} {s : Splitter C}

namespace Splitter

omit [DecidableEq C] in
theorem taken_endArgument (s : Splitter C) : s.endArgument.taken = s.taken := by
  rw [endArgument]
  split
  · rfl
  · simp [taken]

omit [DecidableEq C] in
theorem flatten_args_endArgument (s : Splitter C) :
    s.endArgument.args.flatten = s.taken := by
  rw [endArgument, taken]
  split
  next hempty => rw [List.isEmpty_iff.1 hempty, List.append_nil]
  next => simp

theorem read_quote (hcount : s.quoteCount ≠ 2) :
    s.read quote isSpace quote =
      { s with quoteCount := s.quoteCount + 1 } := by
  rw [read, if_pos rfl, if_neg]
  omega

variable (isSpace) in
/-- Any other character ends the quotes before it. -/
theorem read_other {c : C} (hc : c ≠ quote) :
    (s.read quote isSpace c).quoteCount = 0 ∧
      (s.read quote isSpace c).taken.count quote = s.taken.count quote := by
  rw [read, if_neg hc]
  split
  · constructor
    · rw [endArgument]
      split <;> rfl
    · rw [taken_endArgument]
      rfl
  · refine ⟨rfl, ?_⟩
    simp [taken, endQuotes, hc]

variable (quote isSpace) in
/-- Every quote that becomes part of an argument takes three to write. -/
theorem read_count_le (s : Splitter C) (c : C) :
    3 * (s.read quote isSpace c).taken.count quote +
        (s.read quote isSpace c).quoteCount ≤
      3 * s.taken.count quote + s.quoteCount + [c].count quote := by
  by_cases hc : c = quote
  · subst hc
    by_cases hthird : s.quoteCount + 1 = 3
    · rw [read, if_pos rfl, if_pos hthird]
      simp only [taken, List.count_append, List.count_singleton_self]
      omega
    · rw [read_quote (by omega)]
      simp only [taken, List.count_append, List.count_singleton_self]
      omega
  · obtain ⟨hcount, htaken⟩ := read_other isSpace (s := s) hc
    rw [hcount, htaken]
    omega

variable (quote isSpace) in
theorem foldl_count_le (s : Splitter C) (cs : List C) :
    3 * (cs.foldl (read quote isSpace) s).taken.count quote +
        (cs.foldl (read quote isSpace) s).quoteCount ≤
      3 * s.taken.count quote + s.quoteCount + cs.count quote := by
  induction cs generalizing s with
  | nil => exact Nat.le_refl _
  | cons c cs ih =>
      have hstep := read_count_le quote isSpace s c
      have hrest := ih (s.read quote isSpace c)
      rw [← List.singleton_append, List.count_append, List.foldl_append]
      exact Nat.le_trans hrest (by omega)

variable (isSpace) in
/-- Text without quotes writes none, and ends those before it. -/
theorem foldl_other {cs : List C} (hne : cs ≠ []) (hquote : quote ∉ cs) :
    (cs.foldl (read quote isSpace) s).quoteCount = 0 ∧
      (cs.foldl (read quote isSpace) s).taken.count quote =
        s.taken.count quote := by
  induction cs generalizing s with
  | nil => exact absurd rfl hne
  | cons c cs ih =>
      rw [List.mem_cons, not_or] at hquote
      have hc := read_other isSpace (s := s) (Ne.symm hquote.1)
      rw [List.foldl_cons]
      by_cases hempty : cs = []
      · rw [hempty]
        exact hc
      · obtain ⟨hcount, htaken⟩ := ih (s := s.read quote isSpace c) hempty
          hquote.2
        exact ⟨hcount, htaken.trans hc.2⟩

/-- Inside a group all characters but quotes are taken. -/
theorem foldl_inQuote {cs : List C} (hquote : quote ∉ cs)
    (hcount : s.quoteCount = 0) (hin : s.inQuote = true) :
    cs.foldl (read quote isSpace) s = { s with tmp := s.tmp ++ cs } := by
  induction cs generalizing s with
  | nil => simp
  | cons c cs ih =>
      rw [List.mem_cons, not_or] at hquote
      have hc : s.read quote isSpace c = { s with tmp := s.tmp ++ [c] } := by
        rw [read, if_neg (Ne.symm hquote.1)]
        simp [endQuotes, hcount, hin]
      rw [List.foldl_cons, hc]
      refine (ih (s := { s with tmp := s.tmp ++ [c] }) hquote.2 hcount
        hin).trans ?_
      simp

/-- Outside a group the characters of a word are. -/
theorem foldl_word {cs : List C}
    (hword : ∀ c ∈ cs, c ≠ quote ∧ isSpace c = false)
    (hcount : s.quoteCount = 0) (hin : s.inQuote = false) :
    cs.foldl (read quote isSpace) s = { s with tmp := s.tmp ++ cs } := by
  induction cs generalizing s with
  | nil => simp
  | cons c cs ih =>
      obtain ⟨⟨hquote, hspace⟩, hrest⟩ := List.forall_mem_cons.1 hword
      have hc : s.read quote isSpace c = { s with tmp := s.tmp ++ [c] } := by
        rw [read, if_neg hquote]
        simp [endQuotes, hcount, hin, hspace]
      rw [List.foldl_cons, hc]
      refine (ih (s := { s with tmp := s.tmp ++ [c] }) hrest hcount hin).trans
        ?_
      simp

end Splitter

section Wrapped

variable {word : List C} {space : C}

/-- The state behind a word and a space. -/
theorem foldl_command (hne : word ≠ [])
    (hword : ∀ c ∈ word, c ≠ quote ∧ isSpace c = false)
    (hspace : isSpace space = true) (hquote : space ≠ quote) :
    (word ++ [space]).foldl (Splitter.read quote isSpace) {} =
      { args := [word] } := by
  have hempty : word.isEmpty = false := by simpa using hne
  rw [List.foldl_append, Splitter.foldl_word hword rfl rfl]
  simp [Splitter.read, Splitter.endQuotes, Splitter.endArgument, hspace,
    hquote, hempty]

/-- A quoted text without quotes is one argument. -/
theorem foldl_quoted {text : List C} (hne : text ≠ []) (hquote : quote ∉ text) :
    ((quote :: (text ++ [quote])).foldl (Splitter.read quote isSpace)
      { args := [word] }).endArgument.args = [word, text] := by
  cases text with
  | nil => exact absurd rfl hne
  | cons c text =>
      rw [List.mem_cons, not_or] at hquote
      have hopen : Splitter.read quote isSpace
          (Splitter.read quote isSpace { args := [word] } quote) c =
            { args := [word], tmp := [c], inQuote := true } := by
        rw [Splitter.read_quote (by simp), Splitter.read,
          if_neg (Ne.symm hquote.1)]
        simp [Splitter.endQuotes]
      rw [List.cons_append, List.foldl_cons, List.foldl_cons, hopen,
        List.foldl_append, Splitter.foldl_inQuote hquote.2 rfl rfl,
        List.foldl_cons, List.foldl_nil, Splitter.read_quote (by simp)]
      simp [Splitter.endArgument]

/-- Text between the quotes keeps three of them from being one. -/
theorem count_eq_zero_of_between (isSpace : C → Bool) {between : List C}
    (before after : List C)
    (hstart : s.taken.count quote = 0 ∧ s.quoteCount = 0)
    (hne : between ≠ []) (hbetween : quote ∉ between)
    (hbefore : before.count quote < 3) (hafter : after.count quote < 3) :
    ((before ++ between ++ after).foldl
      (Splitter.read quote isSpace) s).taken.count quote = 0 := by
  rw [List.foldl_append, List.foldl_append]
  have hfirst := Splitter.foldl_count_le quote isSpace s before
  obtain ⟨hcount, htaken⟩ := Splitter.foldl_other isSpace
    (s := before.foldl (Splitter.read quote isSpace) s) hne hbetween
  have hlast := Splitter.foldl_count_le quote isSpace
    (between.foldl (Splitter.read quote isSpace)
      (before.foldl (Splitter.read quote isSpace) s)) after
  omega

/-- A quoted text with a quote in it does not keep all its quotes, unless it
is nothing but one. -/
theorem eq_quote_of_taken (isSpace : C → Bool) {text : List C} (hmem : quote ∈ text)
    (hstart : s.taken.count quote = 0 ∧ s.quoteCount = 0)
    (htaken : ((quote :: (text ++ [quote])).foldl
      (Splitter.read quote isSpace) s).taken.count quote = text.count quote) :
    text = [quote] := by
  have hbound := Splitter.foldl_count_le quote isSpace s
    (quote :: (text ++ [quote]))
  have hpos := List.count_pos_iff.2 hmem
  obtain ⟨before, after, rfl⟩ := List.append_of_mem hmem
  rw [htaken] at hbound
  simp only [List.count_cons_self, List.count_append,
    List.count_nil] at hbound hpos htaken
  have hbefore : before.count quote = 0 := by omega
  have hafter : after.count quote = 0 := by omega
  by_cases hempty : before = []
  · by_cases hempty' : after = []
    · rw [hempty, hempty', List.nil_append]
    · have hzero := count_eq_zero_of_between isSpace (s := s)
        (quote :: (before ++ [quote])) [quote] hstart hempty'
        (List.not_mem_of_count_eq_zero hafter) (by simp [hbefore]) (by simp)
      simp only [List.append_assoc, List.cons_append, List.nil_append]
        at hzero htaken
      omega
  · have hzero := count_eq_zero_of_between isSpace (s := s) [quote]
      (quote :: (after ++ [quote])) hstart hempty
      (List.not_mem_of_count_eq_zero hbefore) (by simp) (by simp [hafter])
    simp only [List.append_assoc, List.cons_append, List.nil_append]
      at hzero htaken
    omega

/-- A word followed by a quoted text comes apart into the two exactly when
there is a text without quotes, or it is a quote and nothing else. -/
theorem split_quoted_iff (hne : word ≠ [])
    (hword : ∀ c ∈ word, c ≠ quote ∧ isSpace c = false)
    (hspace : isSpace space = true) (hquote : space ≠ quote) (text : List C) :
    split quote isSpace ((word ++ [space]) ++ quote :: (text ++ [quote])) =
        [word, text] ↔
      (text ≠ [] ∧ quote ∉ text) ∨ text = [quote] := by
  rw [split, List.foldl_append, foldl_command hne hword hspace hquote]
  have hfree : word.count quote = 0 :=
    List.count_eq_zero.2 fun hmem => (hword quote hmem).1 rfl
  constructor
  · intro hsplit
    by_cases hmem : quote ∈ text
    · refine Or.inr (eq_quote_of_taken isSpace
        (s := { args := [word] }) hmem ⟨?_, rfl⟩ ?_)
      · simpa [Splitter.taken] using hfree
      · rw [← Splitter.flatten_args_endArgument, hsplit]
        simp [hfree]
    · refine Or.inl ⟨?_, hmem⟩
      rintro rfl
      simp [Splitter.read, Splitter.endArgument] at hsplit
  · rintro (⟨htext, hmem⟩ | rfl)
    · exact foldl_quoted htext hmem
    · simp [Splitter.read, Splitter.endArgument]

end Wrapped

section Joined

/-- Words with a separator between them. -/
def join (space : C) : List (List C) → List C
  | [] => []
  | [word] => word
  | word :: words => word ++ space :: join space words

omit [DecidableEq C] in
theorem join_cons (space : C) (word : List C) {words : List (List C)}
    (h : words ≠ []) :
    join space (word :: words) = word ++ space :: join space words := by
  cases words with
  | nil => exact absurd rfl h
  | cons next words => rfl

omit [DecidableEq C] in
theorem join_append {space : C} {words words' : List (List C)}
    (h : words ≠ []) (h' : words' ≠ []) :
    join space (words ++ words') =
      join space words ++ space :: join space words' := by
  induction words with
  | nil => exact absurd rfl h
  | cons word words ih =>
      by_cases hempty : words = []
      · rw [hempty, List.singleton_append, join_cons space word h', join]
      · rw [List.cons_append, join_cons space word (by simp [hempty]),
          ih hempty, join_cons space word hempty, List.append_assoc,
          List.cons_append]

/-- A word that is written as it is. -/
def Plain (quote : C) (isSpace : C → Bool) (word : List C) : Prop :=
  word ≠ [] ∧ ∀ c ∈ word, c ≠ quote ∧ isSpace c = false

variable {space : C} {words : List (List C)}

/-- Plain words come out one by one. -/
theorem foldl_join (hspace : isSpace space = true) (hquote : space ≠ quote)
    (hwords : ∀ word ∈ words, Plain quote isSpace word)
    (args : List (List C)) :
    ((join space words).foldl (Splitter.read quote isSpace)
      { args := args }).endArgument.args = args ++ words := by
  induction words generalizing args with
  | nil => simp [join, Splitter.endArgument]
  | cons word words ih =>
      obtain ⟨⟨hne, hword⟩, hrest⟩ := List.forall_mem_cons.1 hwords
      have hempty : word.isEmpty = false := by simpa using hne
      cases words with
      | nil =>
          rw [join, Splitter.foldl_word hword rfl rfl]
          simp [Splitter.endArgument, hempty]
      | cons next words =>
          have hread : Splitter.read quote isSpace
              { args := args, tmp := word } space =
                { args := args ++ [word] } := by
            simp [Splitter.read, Splitter.endQuotes, Splitter.endArgument,
              hspace, hquote, hempty]
          rw [join_cons space word (List.cons_ne_nil next words),
            List.foldl_append, Splitter.foldl_word hword rfl rfl,
            List.foldl_cons, List.nil_append, hread, ih hrest,
            List.append_assoc, List.singleton_append]

namespace Splitter

variable {c : C}

/-- No argument is empty. -/
def Filled (s : Splitter C) : Prop := ∀ arg ∈ s.args, arg ≠ []

omit [DecidableEq C] in
theorem Filled.endArgument (h : s.Filled) : s.endArgument.Filled := by
  rw [Splitter.endArgument]
  split
  · exact h
  next hempty =>
    intro arg harg
    rcases List.mem_append.1 harg with hold | hnew
    · exact h arg hold
    · rw [List.mem_singleton.1 hnew]
      exact fun hnil => hempty (by rw [hnil]; rfl)

theorem Filled.read (h : s.Filled) (c : C) :
    (s.read quote isSpace c).Filled := by
  rw [Splitter.read]
  split
  · split <;> exact h
  · split
    · exact Filled.endArgument (s := s.endQuotes) h
    · exact h

/-- Without quotes no argument has a space. -/
structure Unquoted (isSpace : C → Bool) (s : Splitter C) : Prop where
  quoteCount : s.quoteCount = 0
  inQuote : s.inQuote = false
  args : ∀ arg ∈ s.args, ∀ c ∈ arg, isSpace c = false
  tmp : ∀ c ∈ s.tmp, isSpace c = false

omit [DecidableEq C] in
theorem Unquoted.endArgument (h : s.Unquoted isSpace) :
    s.endArgument.Unquoted isSpace := by
  rw [Splitter.endArgument]
  split
  · exact h
  · refine ⟨h.quoteCount, h.inQuote, fun arg harg => ?_, by simp⟩
    rcases List.mem_append.1 harg with hold | hnew
    · exact h.args arg hold
    · rw [List.mem_singleton.1 hnew]
      exact h.tmp

omit [DecidableEq C] in
theorem Unquoted.endQuotes (h : s.Unquoted isSpace) : s.endQuotes = s := by
  obtain ⟨args, tmp, quoteCount, inQuote⟩ := s
  obtain rfl : quoteCount = 0 := h.quoteCount
  rfl

theorem Unquoted.read (h : s.Unquoted isSpace) (hc : c ≠ quote) :
    (s.read quote isSpace c).Unquoted isSpace := by
  rw [Splitter.read, if_neg hc, h.endQuotes]
  split
  · exact h.endArgument
  next hspace =>
    have hword : isSpace c = false := by simpa [h.inQuote] using hspace
    refine ⟨h.quoteCount, h.inQuote, h.args, fun c' hc' => ?_⟩
    rcases List.mem_append.1 hc' with hold | hnew
    · exact h.tmp c' hold
    · rw [List.mem_singleton.1 hnew]
      exact hword

end Splitter

theorem ne_nil_of_mem_split {command arg : List C}
    (h : arg ∈ split quote isSpace command) : arg ≠ [] := by
  have hfilled : (command.foldl (Splitter.read quote isSpace) {}).Filled :=
    List.foldlRecOn command _ (fun _ h => absurd h List.not_mem_nil)
      fun _ hs c _ => hs.read c
  exact hfilled.endArgument arg h

theorem not_isSpace_of_mem_split {command arg : List C}
    (hquote : quote ∉ command) (h : arg ∈ split quote isSpace command) :
    ∀ c ∈ arg, isSpace c = false := by
  have hunquoted : (command.foldl (Splitter.read quote isSpace) {}).Unquoted
      isSpace :=
    List.foldlRecOn command _ ⟨rfl, rfl, by simp, by simp⟩
      fun _ hs c hc => hs.read fun heq => hquote (heq ▸ hc)
  exact hunquoted.endArgument.args arg h

theorem count_join (hquote : space ≠ quote) (words : List (List C)) :
    (join space words).count quote = words.flatten.count quote := by
  induction words with
  | nil => rfl
  | cons word words ih =>
      cases words with
      | nil => simp [join]
      | cons next words =>
          rw [join_cons space word (List.cons_ne_nil next words),
            List.count_append, List.count_cons_of_ne hquote, ih,
            List.flatten_cons (L := next :: words), List.count_append]

/-- The words of a command line come back exactly when all are plain. -/
theorem split_join_iff (hspace : isSpace space = true)
    (hquote : space ≠ quote) (words : List (List C)) :
    split quote isSpace (join space words) = words ↔
      ∀ word ∈ words, Plain quote isSpace word := by
  constructor
  · intro hsplit
    have hcount : words.flatten.count quote = 0 := by
      have hle := Splitter.foldl_count_le quote isSpace {} (join space words)
      rw [← Splitter.flatten_args_endArgument] at hle
      change 3 * (split quote isSpace (join space words)).flatten.count quote +
        _ ≤ 0 + 0 + _ at hle
      rw [hsplit, count_join hquote] at hle
      omega
    have hfree : quote ∉ join space words := by
      rw [← List.count_eq_zero, count_join hquote]
      exact hcount
    intro word hword
    rw [← hsplit] at hword
    refine ⟨ne_nil_of_mem_split hword, fun c hc => ⟨?_,
      not_isSpace_of_mem_split hfree hword c hc⟩⟩
    rintro rfl
    rw [hsplit] at hword
    exact List.count_eq_zero.1 hcount (List.mem_flatten.2 ⟨word, hword, hc⟩)
  · intro hwords
    exact foldl_join hspace hquote hwords []

end Joined

end QuoteSplit
