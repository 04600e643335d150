import Lockbox.Json.Parser
import Lockbox.Json.Printer

/-!
# Reading what was printed

A value without floating point and negative numbers can be read back from its indented text, up to
the order of the members of its objects:

    parse?_pretty : Legible maxDepth j → parse? j.pretty = some j.sorted

`Legible depth` says which values these are, `sorted` puts members in the order of a value that was
read. The induction is over `Legible`; the text that follows a value is kept general, and all that
is asked of it is that it does not carry on a number (`Stops`).
-/

namespace Lockbox.Json

/-! ## Sorted values -/

mutual

/-- The value with the members of every object in the order of their names. -/
def sorted : Json → Json
  | .array items => .array (sortedItems items)
  | .object members => .object (sortMembers (sortedMembers members))
  | scalar => scalar

def sortedItems : List Json → List Json
  | [] => []
  | item :: rest => sorted item :: sortedItems rest

def sortedMembers : List (String × Json) → List (String × Json)
  | [] => []
  | (name, value) :: rest => (name, sorted value) :: sortedMembers rest

end

/-- The recursions that go along a nested list are maps; they are spelled out only to be
structural. -/
theorem sortedItems_eq_map (items : List Json) : sortedItems items = items.map sorted := by
  induction items with
  | nil => rfl
  | cons item rest ih => rw [sortedItems, ih, List.map_cons]

theorem sortedMembers_eq_map (members : List (String × Json)) :
    sortedMembers members = members.map fun m => (m.1, sorted m.2) := by
  induction members with
  | nil => rfl
  | cons m rest ih => rw [sortedMembers, ih, List.map_cons]

theorem prettyItems_eq_map (level : Nat) (items : List Json) :
    prettyItems level items = items.map (prettyChars level) := by
  induction items with
  | nil => rfl
  | cons item rest ih => rw [prettyItems, ih, List.map_cons]

theorem prettyMembers_eq_map (level : Nat) (members : List (String × Json)) :
    prettyMembers level members =
      members.map fun m => printString m.1 ++ ':' :: ' ' :: prettyChars level m.2 := by
  induction members with
  | nil => rfl
  | cons m rest ih => rw [prettyMembers, ih, List.map_cons]

@[simp] theorem member?_nil (n : String) : member? n [] = none := rfl

theorem member?_cons (n name : String) (value : Json) (members : List (String × Json)) :
    member? n ((name, value) :: members) = if name = n then some value else member? n members := by
  by_cases h : name = n
  · simp [member?, h]
  · simp [member?, h]

/-- An insertion replaces the member of that name, or adds one. -/
theorem member?_insertMember (n name : String) (value : Json) (members : List (String × Json)) :
    member? n (insertMember name value members) =
      if name = n then some value else member? n members := by
  induction members with
  | nil => rw [insertMember, member?_cons]
  | cons m rest ih =>
    obtain ⟨other, old⟩ := m
    rw [insertMember]
    split
    · next eq =>
      rw [member?_cons, member?_cons, eq]
      split <;> rfl
    · split
      · rw [member?_cons]
      · next differs _ =>
        rw [member?_cons, member?_cons, ih]
        by_cases h : name = n
        · have ne : other ≠ n := fun e => differs (h.trans e.symm)
          simp only [h, ne, if_true, if_false]
        · simp only [h, if_false]

/-- The last of several members of one name counts. -/
theorem member?_sortMembers (n : String) (members : List (String × Json)) :
    member? n (sortMembers members) = member? n members.reverse := by
  -- the fold puts members into any sorted list, which is what the induction needs
  have fold : ∀ sorted, member? n (members.foldl (fun s m => insertMember m.1 m.2 s) sorted) =
      (member? n members.reverse).or (member? n sorted) := by
    induction members with
    | nil => simp
    | cons m rest ih =>
      intro sorted
      have last : member? n (rest.reverse ++ [m]) =
          (member? n rest.reverse).or (if m.1 = n then some m.2 else none) := by
        rw [← member?_nil n, ← member?_cons]
        simp only [member?, List.find?_append, Option.map_or]
      rw [List.foldl_cons, ih, member?_insertMember, List.reverse_cons, last, Option.or_assoc]
      split <;> rfl
  rw [sortMembers, fold [], member?_nil, Option.or_none]

/-! ## Gaps -/

theorem skipGap_of_not_gap {c : Char} (h : isGap c = false) (cs : List Char) :
    skipGap (c :: cs) = c :: cs := by
  simp [skipGap, h]

/-- A new line and its indentation are a gap. -/
theorem skipGap_newLine (level : Nat) (cs : List Char) :
    skipGap (newLine level ++ cs) = skipGap cs := by
  have line : ∀ c ∈ newLine level, isGap c = true := by
    intro c hc
    rcases List.mem_cons.1 hc with rfl | blank
    · decide
    · rw [(List.mem_replicate.1 blank).2]
      decide
  exact List.dropWhile_append_of_pos line

theorem value?_congr {depth : Nat} {cs cs' : List Char} (h : skipGap cs = skipGap cs') :
    value? depth cs = value? depth cs' := by
  cases depth <;> simp only [value?, h]

theorem value?_newLine (depth level : Nat) (cs : List Char) :
    value? depth (newLine level ++ cs) = value? depth cs := value?_congr (skipGap_newLine level cs)

theorem member_newLine (value : List Char → Option (Json × List Char)) (level : Nat)
    (cs : List Char) : member value (newLine level ++ cs) = member value cs := by
  simp only [member, skipGap_newLine]

/-! ## Strings -/

theorem hexDigit?_digitChar {n : Nat} (h : n < 16) : hexDigit? (Nat.digitChar n) = some n := by
  have all : ∀ n : Fin 16, hexDigit? (Nat.digitChar n) = some n.val := by decide
  exact all ⟨n, h⟩

/-- The number of a control character reads as that character. -/
theorem escape?_printControl {c : Char} (h : c.toNat < 0x20) (rest : List Char) :
    escape? ('u' :: '0' :: '0' :: Nat.digitChar (c.toNat / 16) :: Nat.digitChar (c.toNat % 16) ::
      rest) = some (c, rest) := by
  have high : hexDigit? (Nat.digitChar (c.toNat / 16)) = some (c.toNat / 16) :=
    hexDigit?_digitChar (by omega)
  have low : hexDigit? (Nat.digitChar (c.toNat % 16)) = some (c.toNat % 16) :=
    hexDigit?_digitChar (by omega)
  have zero : hexDigit? '0' = some 0 := by decide
  have whole : ((0 * 16 + 0) * 16 + c.toNat / 16) * 16 + c.toNat % 16 = c.toNat := by omega
  have unit : unit? '0' '0' (Nat.digitChar (c.toNat / 16)) (Nat.digitChar (c.toNat % 16)) =
      some c.toNat := by
    simp only [unit?, high, low, zero, Option.bind_eq_bind, Option.bind_some, whole]
  rw [escape?, unit, Option.bind_eq_bind, Option.bind_some, if_neg (by omega), if_neg (by omega),
    Char.ofNat_toNat]

/-- What one step reads of a string. -/
theorem stringBody?_printChar (fuel : Nat) (c : Char) (rest : List Char) :
    stringBody? (fuel + 1) (printChar c ++ rest) =
      (stringBody? fuel rest).map fun r => (c :: r.1, r.2) := by
  unfold printChar
  -- the characters with an escape of their own, and the eighth case for all others
  split
  case h_8 plain backslash _ _ _ _ _ =>
    split
    · next control =>
      -- the letters in front of the number are read by `escape?` as a whole
      simp only [printControl, List.cons_append, List.nil_append, stringBody?, if_true,
        escape?_printControl control, Option.bind_eq_bind, Option.bind_some, Option.map_eq_bind]
      rfl
    · next visible =>
      simp only [List.cons_append, List.nil_append, stringBody?, if_neg plain, if_neg backslash,
        if_neg visible, Option.bind_eq_bind, Option.map_eq_bind]
      rfl
  all_goals
    cases h : stringBody? fuel rest <;> simp [stringBody?, escape?, shortEscape?, h]

theorem printChar_ne_nil (c : Char) : printChar c ≠ [] := by
  unfold printChar
  split
  case h_8 => split <;> simp [printControl]
  all_goals simp

/-- A text gets no shorter in print. -/
theorem length_le_flatMap_printChar (cs : List Char) :
    cs.length ≤ (cs.flatMap printChar).length := by
  induction cs with
  | nil => simp
  | cons c cs ih =>
    have := List.length_pos_iff.2 (printChar_ne_nil c)
    rw [List.flatMap_cons, List.length_append, List.length_cons]
    omega

/-- Character by character a printed text is read back. The fuel is what is left of the text, which
is always enough. -/
theorem stringBody?_flatMap_printChar (cs rest : List Char) (extra : Nat) :
    stringBody? (cs.length + 1 + extra) (cs.flatMap printChar ++ '\x22' :: rest) =
      some (cs, rest) := by
  induction cs with
  | nil =>
    rw [List.flatMap_nil, List.nil_append, List.length_nil, show 0 + 1 + extra = extra + 1 by omega,
      stringBody?, if_pos rfl]
  | cons c cs ih =>
    rw [List.flatMap_cons, List.append_assoc, List.length_cons,
      show cs.length + 1 + 1 + extra = cs.length + 1 + extra + 1 by omega, stringBody?_printChar,
      ih]
    rfl

/-- A text in quotes is read up to its closing quote. -/
theorem string?_print (s : String) (rest : List Char) :
    string? (s.toList.flatMap printChar ++ '\x22' :: rest) = some (s, rest) := by
  have fits := length_le_flatMap_printChar s.toList
  obtain ⟨extra, total⟩ : ∃ extra, (s.toList.flatMap printChar ++ '\x22' :: rest).length =
      s.toList.length + 1 + extra := by
    refine ⟨(s.toList.flatMap printChar).length - s.toList.length + rest.length, ?_⟩
    rw [List.length_append, List.length_cons]
    omega
  rw [string?, total, stringBody?_flatMap_printChar, Option.map_some]
  simp only [String.ofList_toList]

/-! ## Numbers -/

/-- Text that does not carry on a number that ends in front of it. -/
def Stops (rest : List Char) : Prop :=
  ∀ c more, rest = c :: more → Digits.value? c = none ∧ c ≠ '.' ∧ c ≠ 'e' ∧ c ≠ 'E'

theorem stops_nil : Stops [] := by
  intro c more h
  cases h

theorem stops_comma (rest : List Char) : Stops (',' :: rest) := by
  intro c more h
  cases h
  decide

theorem stops_newLine (level : Nat) (rest : List Char) : Stops (newLine level ++ rest) := by
  intro c more h
  cases h
  decide

def digitValue (c : Char) : Nat := c.toNat - 48

/-- The parser and the library agree on which characters are digits. -/
theorem value?_of_isDigit {c : Char} (h : c.isDigit = true) :
    Digits.value? c = some (digitValue c) := by
  have bounds : '0' ≤ c ∧ c ≤ '9' := by
    simpa [Char.isDigit, Char.le_def, UInt32.le_iff_toNat_le] using h
  rw [Digits.value?, if_pos bounds, digitValue]

theorem isDigit_of_value? {c : Char} {d : Nat} (h : Digits.value? c = some d) :
    c.isDigit = true ∧ d = digitValue c := by
  rw [Digits.value?] at h
  split at h
  · next bounds =>
    refine ⟨?_, (Option.some.inj h).symm⟩
    simpa [Char.isDigit, Char.le_def, UInt32.le_iff_toNat_le] using bounds
  · cases h

/-- The digits of a number are taken together, up to what stops it. -/
theorem span_digits {cs rest : List Char} (digits : ∀ c ∈ cs, c.isDigit = true)
    (stops : ∀ c more, rest = c :: more → Digits.value? c = none) :
    Digits.span (cs ++ rest) = (cs.map digitValue, rest) := by
  induction cs with
  | nil =>
    cases rest with
    | nil => rfl
    | cons c more => rw [List.nil_append, Digits.span, stops c more rfl, List.map_nil]
  | cons c cs ih =>
    have head := value?_of_isDigit (digits c List.mem_cons_self)
    have tail := ih fun d hd => digits d (List.mem_cons_of_mem c hd)
    rw [List.cons_append, Digits.span, head, tail, List.map_cons]

/-- The digits of a number begin with a zero only if it is zero. -/
theorem toDigits_eq_cons (n : Nat) :
    ∃ c cs, Nat.toDigits 10 n = c :: cs ∧ (digitValue c = 0 → cs = []) := by
  -- on the number, which is divided by ten
  induction n using Nat.strongRecOn with
  | _ n ih =>
    by_cases small : n < 10
    · exact ⟨n.digitChar, [], Nat.toDigits_of_lt_base small, fun _ => rfl⟩
    · obtain ⟨c, cs, digits, zero⟩ := ih (n / 10) (by omega)
      refine ⟨c, cs ++ [(n % 10).digitChar], ?_, ?_⟩
      · rw [Nat.toDigits_of_base_le (by decide) (by omega), digits, List.cons_append]
      · intro h
        -- a number of one digit that is zero is the quotient of none above nine
        have one : Nat.toDigits 10 (n / 10) = [c] := by rw [digits, zero h]
        have whole := Nat.ofDigitChars_ten_toDigits (n := n / 10)
        rw [one, Nat.ofDigitChars_cons, Nat.ofDigitChars_nil] at whole
        have value : c.toNat - '0'.toNat = 0 := h
        rw [value] at whole
        omega

theorem exists_head_toDigits (n : Nat) :
    ∃ c cs, Nat.toDigits 10 n = c :: cs ∧ c.isDigit = true := by
  obtain ⟨c, cs, digits, -⟩ := toDigits_eq_cons n
  have isDigit : c.isDigit = true := Nat.isDigit_of_mem_toDigits (b := 10) (n := n) (by decide)
    (by decide) (by rw [digits]; exact List.mem_cons_self)
  exact ⟨c, cs, digits, isDigit⟩

theorem ofDigitChars_digit (c : Char) (cs : List Char) (n : Nat) :
    Nat.ofDigitChars 10 (c :: cs) n = Nat.ofDigitChars 10 cs (n * 10 + digitValue c) := by
  rw [Nat.ofDigitChars_cons, Nat.mul_comm]
  rfl

theorem le_ofDigitChars (cs : List Char) (n : Nat) : n ≤ Nat.ofDigitChars 10 cs n := by
  induction cs generalizing n with
  | nil => exact Nat.le_of_eq Nat.ofDigitChars_nil.symm
  | cons c cs ih =>
    rw [ofDigitChars_digit]
    have := ih (n * 10 + digitValue c)
    omega

/-- Digits add up to their number as long as that fits into a word, and then so does every number on
the way. -/
theorem accumulate_digits (cs : List Char) (n : Nat)
    (fits : Nat.ofDigitChars 10 cs n < Word.unsignedBound) :
    Numeral.accumulate n (cs.map digitValue) = (Nat.ofDigitChars 10 cs n, []) := by
  induction cs generalizing n with
  | nil => rfl
  | cons c cs ih =>
    rw [ofDigitChars_digit] at fits ⊢
    -- what was read so far is at most the whole
    have bound := le_ofDigitChars cs (n * 10 + digitValue c)
    rw [List.map_cons, Numeral.accumulate, if_pos (by omega), ih _ fits]

theorem minus_of_ne {c : Char} (h : c ≠ '-') (cs : List Char) :
    Digits.minus (c :: cs) = (false, c :: cs) := by
  unfold Digits.minus
  split
  · next e => exact absurd (List.cons.inj e).1 h
  · rfl

theorem scanFraction?_of_stops {rest : List Char} (stops : Stops rest) :
    Numeral.scanFraction? rest = some (none, rest) := by
  unfold Numeral.scanFraction?
  split
  · next more => exact absurd rfl (stops '.' more rfl).2.1
  · rfl

theorem scanExponent?_of_stops {rest : List Char} (stops : Stops rest) :
    Numeral.scanExponent? rest = some (none, rest) := by
  cases rest with
  | nil => rfl
  | cons c more =>
    obtain ⟨-, -, lower, upper⟩ := stops c more rfl
    rw [Numeral.scanExponent?, if_neg fun h => h.elim lower upper]

/-- The decimal digits of a natural number are a numeral, whatever stops it. -/
theorem scan?_toDigits (n : Nat) {rest : List Char} (stops : Stops rest) :
    Numeral.scan? (Nat.toDigits 10 n ++ rest) =
      some (⟨false, (Nat.toDigits 10 n).map digitValue, none, none⟩, rest) := by
  have isDigit : ∀ c ∈ Nat.toDigits 10 n, c.isDigit = true := fun c hc =>
    Nat.isDigit_of_mem_toDigits (by decide) (by decide) hc
  have span := span_digits isDigit fun c more h => (stops c more h).1
  obtain ⟨c, cs, digits, zero⟩ := toDigits_eq_cons n
  rw [digits] at isDigit span ⊢
  have unsigned : Digits.minus (c :: cs ++ rest) = (false, c :: cs ++ rest) := by
    refine minus_of_ne ?_ (cs ++ rest)
    rintro rfl
    exact absurd (isDigit '-' List.mem_cons_self) (by decide)
  have whole : Numeral.scanWhole? (c :: cs ++ rest) = some ((c :: cs).map digitValue, rest) := by
    rw [Numeral.scanWhole?, span, List.map_cons]
    -- a zero in front is the whole number, so that no digit follows it
    split
    · next e => cases e
    · next d more after e =>
      simp only [Prod.mk.injEq, List.cons.injEq] at e
      rw [zero e.1.1] at e
      cases e.1.2
    · rfl
  rw [Numeral.scan?, unsigned]
  simp only [whole, scanFraction?_of_stops stops, scanExponent?_of_stops stops,
    Option.bind_eq_bind, Option.bind_some]

/-- A numeral of decimal digits denotes the number that they were printed from. -/
theorem value?_numeral {n : Nat} (fits : n < Word.unsignedBound) :
    Numeral.value? ⟨false, (Nat.toDigits 10 n).map digitValue, none, none⟩ =
      some (.integer n) := by
  have eq : Nat.ofDigitChars 10 (Nat.toDigits 10 n) 0 = n := Nat.ofDigitChars_ten_toDigits
  have sum := accumulate_digits (Nat.toDigits 10 n) 0 (by rw [eq]; exact fits)
  rw [eq] at sum
  simp only [Numeral.value?, sum]
  rfl

/-! ## Values -/

theorem isGap_of_isDigit {c : Char} (h : c.isDigit = true) : isGap c = false := by
  rw [Bool.eq_false_iff]
  intro gap
  simp only [isGap, Bool.or_eq_true, decide_eq_true_eq] at gap
  rcases gap with ((rfl | rfl) | rfl) | rfl <;> exact absurd h (by decide)

/-- A number is read back, if it fits into a word. -/
theorem value?_toDigits (depth : Nat) {n : Nat} (fits : n < Word.unsignedBound)
    {rest : List Char} (stops : Stops rest) :
    value? depth (Nat.toDigits 10 n ++ rest) = some (.integer n, rest) := by
  have scan := scan?_toDigits n stops
  obtain ⟨c, cs, digits, head⟩ := exists_head_toDigits n
  rw [digits, List.cons_append] at scan ⊢
  unfold value?
  rw [skipGap_of_not_gap (isGap_of_isDigit head)]
  split
  case h_7 =>
    rw [scan, Option.bind_eq_bind, Option.bind_some]
    simp only [value?_numeral fits, ← digits, Option.bind_eq_bind, Option.bind_some]
  all_goals
    -- no other value begins with a digit
    next e =>
      obtain ⟨rfl, -⟩ := List.cons.inj e
      exact absurd head (by decide)

/-- A reader takes `a` from the text `piece`, whatever stops it. -/
def Reads (item : List Char → Option (α × List Char)) (piece : List Char) (a : α) : Prop :=
  ∀ rest, Stops rest → item (piece ++ rest) = some (a, rest)

/-- A text begins with neither a gap nor the bracket that closes what it stands in. -/
def Opens (closing : Char) (piece : List Char) : Prop :=
  ∃ c more, piece = c :: more ∧ isGap c = false ∧ c ≠ closing

/-- What stands behind the opening bracket of a block. -/
def inside (level : Nat) (closing : Char) (pieces : List (List Char)) : List Char :=
  if pieces.isEmpty then [closing]
  else commaSeparated (pieces.map (newLine (level + 1) ++ ·)) ++ newLine level ++ [closing]

theorem block_eq_cons (level : Nat) (opening closing : Char) (pieces : List (List Char)) :
    block level opening closing pieces = opening :: inside level closing pieces := by
  unfold block inside
  split <;> rfl

theorem commaSeparated_cons_cons (p q : List Char) (more : List (List Char)) :
    commaSeparated (p :: q :: more) = p ++ ',' :: commaSeparated (q :: more) := rfl

theorem commaSeparated_cons (p : List Char) (more : List (List Char)) :
    ∃ behind, commaSeparated (p :: more) = p ++ behind := by
  cases more with
  | nil => exact ⟨[], (List.append_nil p).symm⟩
  | cons q more => exact ⟨_, commaSeparated_cons_cons p q more⟩

/-- Pieces that are not empty need a character each, which bounds the fuel that their series
needs. -/
theorem length_le_commaSeparated {pieces : List (List Char)} (full : ∀ p ∈ pieces, p ≠ []) :
    pieces.length ≤ (commaSeparated pieces).length := by
  induction pieces with
  | nil => simp
  | cons p more ih =>
    have head := List.length_pos_iff.2 (full p List.mem_cons_self)
    have tail := ih fun q hq => full q (List.mem_cons_of_mem p hq)
    cases more with
    | nil =>
      rw [commaSeparated, List.length_singleton]
      exact head
    | cons q more =>
      rw [commaSeparated_cons_cons, List.length_append, List.length_cons, List.length_cons]
      simp only [List.length_cons] at tail ⊢
      omega

variable {α β : Type}

/-- A series is read item by item; the induction is on the items, and every item but the last is
stopped by a comma. -/
theorem series?_commaSeparated {item : List Char → Option (α × List Char)} {closing : Char}
    {piece : β → List Char} {value : β → α} {items : List β} (level : Nat) (rest : List Char)
    (reads : ∀ x ∈ items, Reads item (piece x) (value x)) (some_item : items ≠ [])
    (gap : isGap closing = false) (comma : closing ≠ ',') {fuel : Nat}
    (enough : items.length ≤ fuel) :
    series? item closing fuel
      (commaSeparated (items.map piece) ++ (newLine level ++ closing :: rest)) =
        some (items.map value, rest) := by
  induction items generalizing fuel with
  -- a series has one item at least
  | nil => exact absurd rfl some_item
  | cons x more ih =>
    cases fuel with
    | zero => cases enough
    | succ fuel =>
      have head := reads x List.mem_cons_self
      cases more with
      | nil =>
        have last := head (newLine level ++ closing :: rest) (stops_newLine level _)
        rw [List.map_cons, List.map_nil, commaSeparated, series?, last]
        simp only [Option.bind_eq_bind, Option.bind_some, skipGap_newLine,
          skipGap_of_not_gap gap, if_neg comma, if_true, List.map_cons, List.map_nil]
      | cons y more =>
        have tail := ih (fun z hz => reads z (List.mem_cons_of_mem x hz)) (List.cons_ne_nil y more)
          (Nat.le_of_succ_le_succ enough)
        rw [List.map_cons] at tail
        rw [List.map_cons, List.map_cons, commaSeparated_cons_cons, List.append_assoc,
          List.cons_append, series?, head _ (stops_comma _)]
        simp only [Option.bind_eq_bind, Option.bind_some,
          skipGap_of_not_gap (show isGap ',' = false by decide), if_true, tail, List.map_cons]

/-- A block is read up to its closing bracket. -/
theorem enclosed?_inside {item : List Char → Option (α × List Char)} {closing : Char}
    {piece : β → List Char} {value : β → α} {items : List β} (level : Nat) (rest : List Char)
    (reads : ∀ x ∈ items, Reads item (newLine (level + 1) ++ piece x) (value x))
    (opens : ∀ x ∈ items, Opens closing (piece x))
    (gap : isGap closing = false) (comma : closing ≠ ',') :
    enclosed? item closing (inside level closing (items.map piece) ++ rest) =
      some (items.map value, rest) := by
  cases items with
  | nil =>
    have text : inside level closing ([].map piece) ++ rest = closing :: rest := rfl
    rw [text, enclosed?, skipGap_of_not_gap gap]
    exact if_pos rfl
  | cons x more =>
    have text : inside level closing ((x :: more).map piece) ++ rest =
        commaSeparated ((x :: more).map fun y => newLine (level + 1) ++ piece y) ++
          (newLine level ++ closing :: rest) := by
      rw [inside, if_neg (by simp), List.map_map]
      simp [Function.comp_def]
    have enough : ((x :: more).map fun y => newLine (level + 1) ++ piece y).length ≤
        (commaSeparated ((x :: more).map fun y => newLine (level + 1) ++ piece y)).length := by
      apply length_le_commaSeparated
      intro p hp
      obtain ⟨y, -, rfl⟩ := List.mem_map.1 hp
      simp [newLine]
    -- the parser has as much fuel as there is text
    have fuel : (x :: more).length ≤
        (inside level closing ((x :: more).map piece) ++ rest).length := by
      rw [List.length_map] at enough
      rw [text, List.length_append]
      omega
    have series := series?_commaSeparated level rest reads (List.cons_ne_nil x more) gap comma fuel
    -- the first item shows that this is not the empty block
    obtain ⟨c, tail, start, solid, ne⟩ := opens x List.mem_cons_self
    have first : ∃ behind, skipGap (inside level closing ((x :: more).map piece) ++ rest) =
        c :: behind := by
      obtain ⟨behind, split⟩ := commaSeparated_cons (newLine (level + 1) ++ piece x)
        (more.map fun y => newLine (level + 1) ++ piece y)
      rw [text, List.map_cons, split, start, List.append_assoc, List.append_assoc, skipGap_newLine,
        List.cons_append, skipGap_of_not_gap solid]
      exact ⟨_, rfl⟩
    obtain ⟨behind, first⟩ := first
    rw [enclosed?, first]
    simp only [if_neg ne]
    rw [← series, text]

theorem value?_blank (depth : Nat) (cs : List Char) :
    value? depth (' ' :: cs) = value? depth cs :=
  value?_congr (List.dropWhile_cons_of_pos (by decide))

/-- A member is read with its name, where its value is read. -/
theorem reads_member {depth level : Nat} {name : String} {text : List Char} {value : Json}
    (h : Reads (value? depth) text value) :
    Reads (member (value? depth)) (newLine level ++ (printString name ++ ':' :: ' ' :: text))
      (name, value) := by
  intro rest stops
  have shape : newLine level ++ (printString name ++ ':' :: ' ' :: text) ++ rest =
      newLine level ++ ('\x22' :: (name.toList.flatMap printChar ++
        '\x22' :: ':' :: ' ' :: (text ++ rest))) := by
    simp [printString]
  have quote : ∀ cs, skipGap ('\x22' :: cs) = '\x22' :: cs :=
    fun cs => skipGap_of_not_gap (by decide) cs
  have colon : ∀ cs, skipGap (':' :: cs) = ':' :: cs := fun cs => skipGap_of_not_gap (by decide) cs
  rw [shape, member_newLine, member, quote]
  simp only [string?_print, colon, value?_blank, h rest stops, Option.bind_eq_bind,
    Option.bind_some]

/-! ## Legible values -/

/-- Values that can be read back with at most `depth` arrays and objects inside each other. -/
inductive Legible : Nat → Json → Prop where
  | null {depth : Nat} : Legible depth .null
  | bool {depth : Nat} (b : Bool) : Legible depth (.bool b)
  | integer {depth n : Nat} : n < Word.unsignedBound → Legible depth (.integer n)
  | string {depth : Nat} (s : String) : Legible depth (.string s)
  | array {depth : Nat} {items : List Json} :
      (∀ item ∈ items, Legible depth item) → Legible (depth + 1) (.array items)
  | object {depth : Nat} {members : List (String × Json)} :
      (∀ m ∈ members, Legible depth m.2) → Legible (depth + 1) (.object members)

/-- No value begins like a gap or like a closing bracket. -/
theorem opens_pretty {depth : Nat} {j : Json} (h : Legible depth j) (level : Nat) {closing : Char}
    (bracket : closing = ']' ∨ closing = '\x7d') : Opens closing (prettyChars level j) := by
  -- whatever the bracket, three comparisons with the first character decide
  have starts : ∀ c more, prettyChars level j = c :: more → isGap c = false → c ≠ ']' →
      c ≠ '\x7d' → Opens closing (prettyChars level j) := by
    intro c more text solid square brace
    refine ⟨c, more, text, solid, ?_⟩
    rcases bracket with rfl | rfl
    · exact square
    · exact brace
  cases h with
  | null => exact starts 'n' _ rfl (by decide) (by decide) (by decide)
  | bool b =>
    cases b with
    | true => exact starts 't' _ rfl (by decide) (by decide) (by decide)
    | false => exact starts 'f' _ rfl (by decide) (by decide) (by decide)
  | @integer _ n _ =>
    have text : prettyChars level (.integer n) = Nat.toDigits 10 n := Nat.toList_repr
    obtain ⟨c, cs, digits, isDigit⟩ := exists_head_toDigits n
    refine starts c cs (text.trans digits) (isGap_of_isDigit isDigit) ?_ ?_ <;>
    · rintro rfl
      exact absurd isDigit (by decide)
  | string s => exact starts '\x22' _ rfl (by decide) (by decide) (by decide)
  | array _ =>
    exact starts '[' _ (by rw [prettyChars, block_eq_cons]) (by decide) (by decide) (by decide)
  | object _ =>
    exact starts '\x7b' _ (by rw [prettyChars, block_eq_cons]) (by decide) (by decide) (by decide)

/-- A legible value is read back, whatever stops it; the induction follows the nesting. -/
theorem reads_pretty {depth : Nat} {j : Json} (h : Legible depth j) (level : Nat) :
    Reads (value? depth) (prettyChars level j) j.sorted := by
  -- on legibility; the level grows inside, and the depth that is left shrinks
  induction h generalizing level with
  | null =>
    intro rest _
    unfold value?
    rfl
  | bool b =>
    intro rest _
    unfold value?
    cases b <;> rfl
  | @integer depth n fits =>
    intro rest stops
    have text : prettyChars level (.integer n) = Nat.toDigits 10 n := Nat.toList_repr
    rw [text, value?_toDigits depth fits stops]
    rfl
  | string s =>
    intro rest _
    have text : prettyChars level (.string s) ++ rest =
        '\x22' :: (s.toList.flatMap printChar ++ '\x22' :: rest) := by
      simp [prettyChars, printScalar, printString]
    rw [text]
    unfold value?
    rw [skipGap_of_not_gap (by decide)]
    simp only [string?_print, Option.map_some]
    rfl
  | @array depth items legible ih =>
    intro rest _
    rw [prettyChars, block_eq_cons, prettyItems_eq_map, List.cons_append]
    unfold value?
    rw [skipGap_of_not_gap (by decide)]
    have read : enclosed? (value? depth) ']'
        (inside level ']' (items.map (prettyChars (level + 1))) ++ rest) =
          some (items.map sorted, rest) := by
      apply enclosed?_inside level rest
      · intro item hi more stops
        rw [List.append_assoc, value?_newLine]
        exact ih item hi (level + 1) more stops
      · intro item hi
        exact opens_pretty (legible item hi) (level + 1) (.inl rfl)
      · decide
      · decide
    simp only [read, Option.map_some, sorted, sortedItems_eq_map]
  | @object depth members legible ih =>
    intro rest _
    rw [prettyChars, block_eq_cons, prettyMembers_eq_map, List.cons_append]
    unfold value?
    rw [skipGap_of_not_gap (by decide)]
    have read : enclosed? (member (value? depth)) '\x7d' (inside level '\x7d' (members.map
        fun m => printString m.1 ++ ':' :: ' ' :: prettyChars (level + 1) m.2) ++ rest) =
          some (members.map fun m => (m.1, sorted m.2), rest) := by
      apply enclosed?_inside level rest
      · intro m hm
        exact reads_member (ih m hm (level + 1))
      · intro m _
        exact ⟨'\x22', _, rfl, by decide, by decide⟩
      · decide
      · decide
    simp only [read, Option.map_some, sorted, sortedMembers_eq_map]

/-- The text of a legible value denotes that value, its members sorted. -/
theorem parse?_pretty {j : Json} (h : Legible maxDepth j) : parse? j.pretty = some j.sorted := by
  have read := reads_pretty h 0 [] stops_nil
  rw [List.append_nil] at read
  rw [parse?, pretty, String.toList_ofList, read]
  rfl

end Lockbox.Json
