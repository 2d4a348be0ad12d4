import StoreTuning.Proofs.Engine.JsonReader
import StoreTuning.Proofs.Text.Numeral

/-!
# Reports are read back from their JSON texts

The text of a report splits into the tokens of the report (`Json.scan_json`), and these are read as
the report (`Json.readValue_tokens`), if no record in it has two entries of one name
(`Report.ofJson?_toJson`).
-/

namespace StoreTuning

open Json (Token Frame scan token? readCodes charsOf? readValue readNext)

mutual

/-- The tokens of a report. -/
def Report.tokens : Report → List Token
  | .null => [.null]
  | .flag b => [.flag b]
  | .number n => [.number n]
  | .text s => [.text s]
  | .record [] => [.leftBrace, .rightBrace]
  | .record ((name, r) :: fs) =>
    .leftBrace :: .text name :: .colon :: (r.tokens ++ tokensAfter fs)

/-- The tokens after an entry of a record: the further entries and the end. -/
def tokensAfter : List (String × Report) → List Token
  | [] => [.rightBrace]
  | (name, r) :: fs => .comma :: .text name :: .colon :: (r.tokens ++ tokensAfter fs)

end

namespace Json

/-! ## Strings -/

/-- The code points that a character is written by: itself, or the halves of a pair. -/
def codesOf (c : Char) : List Nat :=
  if c.toNat < 0x10000 then [c.toNat] else [Text.highHalf c.toNat, Text.lowHalf c.toNat]

/-- An escaped code unit is read as itself. -/
theorem readCodes_escapeUnit {n : Nat} (h : n < 0x10000) (cs : List Char) :
    readCodes (escapeUnit n ++ cs) = (readCodes cs).map fun p => (n :: p.1, p.2) := by
  obtain ⟨a, b, c, d, hdigits, hread⟩ := Text.exists_hexPadded_four h
  rw [escapeUnit, hdigits]
  show readCodes ('\\' :: 'u' :: a :: b :: c :: d :: cs) = _
  rw [readCodes, hread]
  cases readCodes cs <;> rfl

/-- A character that is written by its code is read as its code points. -/
theorem readCodes_escapeCode (c : Char) (cs : List Char) :
    readCodes (escapeCode c ++ cs) = (readCodes cs).map fun p => (codesOf c ++ p.1, p.2) := by
  have hlast := Text.toNat_le_lastCode c
  unfold Text.lastCode at hlast
  simp only [escapeCode, codesOf]
  split
  · rename_i hc
    exact readCodes_escapeUnit hc cs
  · have hhigh : Text.highHalf c.toNat < 0x10000 := by
      unfold Text.highHalf
      omega
    have hlow : Text.lowHalf c.toNat < 0x10000 := by
      unfold Text.lowHalf
      omega
    rw [List.append_assoc]
    show readCodes (escapeUnit (Text.highHalf c.toNat) ++
      (escapeUnit (Text.lowHalf c.toNat) ++ cs)) = _
    rw [readCodes_escapeUnit hhigh, readCodes_escapeUnit hlow]
    cases readCodes cs <;> rfl

/-- A character that is written as it is, is read as its code point. -/
theorem readCodes_plain {c : Char} (hspace : ' ' ≤ c) (hquote : c ≠ '\"') (hslash : c ≠ '\\')
    (cs : List Char) :
    readCodes (c :: cs) = (readCodes cs).map fun p => (c.toNat :: p.1, p.2) := by
  rw [readCodes.eq_5 _ _ hquote (by simp [hslash]) (by simp [hslash]) (by simp [hslash]),
    if_neg (Char.not_lt.2 hspace)]
  cases readCodes cs <;> rfl

/-- A backslash and a letter are read as the code point of what they stand for. -/
theorem readCodes_short {e c : Char} (h : shortEscape? e = some c) (cs : List Char) :
    readCodes ('\\' :: e :: cs) = (readCodes cs).map fun p => (c.toNat :: p.1, p.2) := by
  have he : e ≠ 'u' := by
    rintro rfl
    cases h
  rw [readCodes.eq_3 _ _ (fun _ _ _ _ _ hu => absurd hu he), h]
  cases readCodes cs <;> rfl

theorem codesOf_of_lt {c : Char} (h : c.toNat < 0x10000) : codesOf c = [c.toNat] :=
  if_pos h

/-- What a character is written as is read as its code points. -/
theorem readCodes_escapeChar (c : Char) (cs : List Char) :
    readCodes (escapeChar c ++ cs) = (readCodes cs).map fun p => (codesOf c ++ p.1, p.2) := by
  unfold escapeChar
  split
  case h_8 hquote hslash _ _ _ _ _ =>
    split
    · rename_i hrange
      rw [Bool.and_eq_true, decide_eq_true_eq, decide_eq_true_eq] at hrange
      have hcode : c.toNat ≤ 126 := hrange.2
      rw [codesOf_of_lt (by omega)]
      exact readCodes_plain hrange.1 hquote hslash cs
    · exact readCodes_escapeCode c cs
  all_goals exact readCodes_short rfl cs

/-- The text within quotes is read as the code points of its characters. -/
theorem readCodes_flatMap (cs rest : List Char) :
    readCodes (cs.flatMap escapeChar ++ '\"' :: rest) = some (cs.flatMap codesOf, rest) := by
  induction cs with
  | nil => rfl
  | cons c cs ih =>
    rw [List.flatMap_cons, List.append_assoc, readCodes_escapeChar, ih]
    rfl

/-- The code points of a character give it back, whatever comes after. -/
theorem charsOf?_codesOf (c : Char) (ns : List Nat) :
    charsOf? (codesOf c ++ ns) = (charsOf? ns).map (c :: ·) := by
  unfold codesOf
  split
  · have hcode : Text.ofCode? c.toNat = some c := Text.ofCode?_toNat c
    cases ns with
    | nil =>
      show (Text.ofCode? c.toNat).map _ = _
      rw [hcode]
      rfl
    | cons n ns =>
      show charsOf? (c.toNat :: n :: ns) = _
      rw [charsOf?, Text.isHighHalf_toNat, Bool.false_and, if_neg Bool.false_ne_true, hcode]
      cases charsOf? (n :: ns) <;> rfl
  · rename_i hc
    show charsOf? (Text.highHalf c.toNat :: Text.lowHalf c.toNat :: ns) = _
    rw [charsOf?, Text.isHighHalf_highHalf (Text.toNat_le_lastCode c), Text.isLowHalf_lowHalf,
      Bool.and_self, if_pos rfl, Text.joinHalves_halves (Nat.le_of_not_lt hc)]

/-- The code points of characters give them back. -/
theorem charsOf?_flatMap (cs : List Char) : charsOf? (cs.flatMap codesOf) = some cs := by
  induction cs with
  | nil => rfl
  | cons c cs ih =>
    rw [List.flatMap_cons, charsOf?_codesOf, ih]
    rfl

/-- A string is read as its text. -/
theorem token?_string (s : String) (cs : List Char) :
    token? (string s ++ cs) = some (.text s, cs) := by
  have htext : string s ++ cs = '\"' :: (s.toList.flatMap escapeChar ++ '\"' :: cs) := by
    rw [string, List.cons_append, List.cons_append, List.append_assoc]
    rfl
  rw [htext, token?, readCodes_flatMap]
  show (do
    let chars ← charsOf? (s.toList.flatMap codesOf)
    return (Token.text (String.ofList chars), cs)) = _
  rw [charsOf?_flatMap]
  exact congrArg (fun t => some (Token.text t, cs)) String.ofList_toList

/-! ## Numbers -/

/-- No digit comes first. -/
def NoDigitFirst (cs : List Char) : Prop :=
  ∀ c ∈ cs.head?, c.isDigit = false

/-- A natural number is read from its digits, up to the first character that is no digit. -/
theorem natural?_toDigits (n : Nat) {cs : List Char} (h : NoDigitFirst cs) :
    natural? (Nat.toDigits 10 n ++ cs) = some (n, cs) := by
  have hdigits : ∀ c ∈ Nat.toDigits 10 n, c.isDigit = true :=
    fun c hc => Nat.isDigit_of_mem_toDigits (by decide) (by decide) hc
  have htake : cs.takeWhile Char.isDigit = [] := by
    cases cs with
    | nil => rfl
    | cons c cs => rw [List.takeWhile_cons, h c rfl, if_neg Bool.false_ne_true]
  have hdrop : cs.dropWhile Char.isDigit = cs := by
    cases cs with
    | nil => rfl
    | cons c cs => rw [List.dropWhile_cons, h c rfl, if_neg Bool.false_ne_true]
  simp only [natural?]
  rw [List.takeWhile_append_of_pos hdigits, htake, List.append_nil, Nat.ofDigitChars_ten_toDigits,
    if_pos rfl, List.dropWhile_append_of_pos hdigits, hdrop]

/-- Without a digit in front there is no natural number. -/
theorem natural?_of_not_isDigit {c : Char} (h : c.isDigit = false) (cs : List Char) :
    natural? (c :: cs) = none := by
  simp only [natural?]
  rw [List.takeWhile_cons, h, if_neg Bool.false_ne_true, if_neg (Ne.symm Nat.toDigits_ne_nil)]

/-- An integer is read from its spelling. -/
theorem integer?_spell (n : Int) {cs : List Char} (h : NoDigitFirst cs) :
    integer? ((Text.Numeral.spell n).toList ++ cs) = some (n, cs) := by
  cases n with
  | ofNat n =>
    rw [Text.Numeral.spell, Nat.toList_repr]
    obtain ⟨d, ds, hds⟩ := List.exists_cons_of_ne_nil (Nat.toDigits_ne_nil (b := 10) (n := n))
    have hd : d.isDigit = true :=
      Nat.isDigit_of_mem_toDigits (by decide) (by decide) (hds ▸ List.mem_cons_self)
    have hsign : ∀ ds', Nat.toDigits 10 n ++ cs = '-' :: ds' → False := by
      intro ds' hminus
      rw [hds, List.cons_append] at hminus
      obtain ⟨rfl, -⟩ := List.cons.inj hminus
      cases hd
    rw [integer?.eq_2 _ hsign, natural?_toDigits n h]
    rfl
  | negSucc n =>
    rw [Text.Numeral.spell, String.toList_append, Nat.toList_repr]
    show (natural? (Nat.toDigits 10 (n + 1) ++ cs)).map _ = _
    rw [natural?_toDigits (n + 1) h]
    rfl

/-- A digit or a minus sign starts an integer. -/
theorem token?_of_numeral {c : Char} (h : c.isDigit = true ∨ c = '-') (cs : List Char) :
    token? (c :: cs) = (integer? (c :: cs)).map fun p => (.number p.1, p.2) := by
  unfold token?
  split
  case h_9 => rfl
  all_goals
    rename_i hcs
    obtain ⟨rfl, -⟩ := List.cons.inj hcs
    exact absurd h (by decide)

theorem token?_spell (n : Int) {cs : List Char} (h : NoDigitFirst cs) :
    token? ((Text.Numeral.spell n).toList ++ cs) = some (.number n, cs) := by
  have hread := integer?_spell n h
  obtain ⟨d, ds, hds⟩ := List.exists_cons_of_ne_nil (Text.Numeral.spell_toList_ne_nil n)
  have hd : d.isDigit = true ∨ d = '-' := Text.Numeral.mem_spell (hds ▸ List.mem_cons_self)
  rw [hds, List.cons_append] at hread ⊢
  rw [token?_of_numeral hd, hread]
  rfl

/-! ## Splitting into tokens -/

/-- No token starts with white space. -/
theorem token?_space {c : Char} (h : isSpace c = true) (cs : List Char) :
    token? (c :: cs) = none := by
  simp only [isSpace, Bool.or_eq_true, decide_eq_true_eq] at h
  obtain ((rfl | rfl) | rfl) | rfl := h
  all_goals
    show ((natural? _).map _).map _ = none
    rw [natural?_of_not_isDigit rfl]
    rfl

theorem scan_space {c : Char} (h : isSpace c = true) (cs : List Char) :
    scan (c :: cs) = scan cs := by
  rw [scan, if_pos h]

/-- Lines start with white space only. -/
theorem scan_newline (depth : Nat) (cs : List Char) : scan (newline depth ++ cs) = scan cs := by
  have hblanks : ∀ k, scan (List.replicate k ' ' ++ cs) = scan cs := by
    intro k
    induction k with
    | zero => rfl
    | succ k ih => rw [List.replicate_succ, List.cons_append, scan_space rfl, ih]
  rw [newline, List.cons_append, scan_space rfl, hblanks]

/-- A token that is read comes first among the tokens. -/
theorem scan_of_token? {cs rest : List Char} {t : Token} (h : token? cs = some (t, rest)) :
    scan cs = (scan rest).map (t :: ·) := by
  cases cs with
  | nil => cases h
  | cons c cs =>
    cases hspace : isSpace c with
    | true =>
      rw [token?_space hspace] at h
      cases h
    | false =>
      rw [scan, if_neg (by rw [hspace]; exact Bool.false_ne_true)]
      split
      · rename_i hread
        rw [h] at hread
        obtain ⟨rfl, rfl⟩ := Prod.mk.inj (Option.some.inj hread)
        rfl
      · rename_i hread
        rw [h] at hread
        cases hread

/-- A name with what stands before its report. -/
theorem scan_name (name : String) (cs : List Char) :
    scan (string name ++ [':', ' '] ++ cs) = (scan cs).map (.text name :: .colon :: ·) := by
  have hcolon : scan (':' :: ' ' :: cs) = (scan (' ' :: cs)).map (.colon :: ·) :=
    scan_of_token? rfl
  have hspace : scan (' ' :: cs) = scan cs := scan_space rfl cs
  rw [hspace] at hcolon
  rw [List.append_assoc, scan_of_token? (token?_string name _)]
  show (scan (':' :: ' ' :: cs)).map _ = _
  rw [hcolon, Option.map_map]
  rfl

theorem scan_rightBrace (cs : List Char) :
    scan ('\x7d' :: cs) = (scan cs).map (.rightBrace :: ·) :=
  scan_of_token? rfl

theorem noDigitFirst_newline (depth : Nat) (cs : List Char) :
    NoDigitFirst (newline depth ++ cs) := by
  rintro c ⟨⟩
  rfl

mutual

/-- The text of a report splits into its tokens. -/
theorem scan_json : ∀ (r : Report) (depth : Nat) {cs : List Char}, NoDigitFirst cs →
    scan (r.json depth ++ cs) = (scan cs).map (r.tokens ++ ·)
  | .null, _, _, _ => scan_of_token? rfl
  | .flag true, _, _, _ => scan_of_token? rfl
  | .flag false, _, _, _ => scan_of_token? rfl
  | .number n, _, _, h => scan_of_token? (token?_spell n h)
  | .text s, _, cs, _ => scan_of_token? (token?_string s cs)
  | .record [], _, cs, _ => by
    have hbrace : scan ('\x7b' :: '\x7d' :: cs) = (scan ('\x7d' :: cs)).map (.leftBrace :: ·) :=
      scan_of_token? rfl
    rw [scan_rightBrace, Option.map_map] at hbrace
    exact hbrace
  | .record (f :: fs), depth, cs, _ => by
    have hfields := scan_jsonFields (f :: fs) (by simp) (depth + 1) depth cs
    have hbrace : ∀ cs', scan ('\x7b' :: cs') = (scan cs').map (.leftBrace :: ·) :=
      fun cs' => scan_of_token? rfl
    simp only [Report.json, List.append_assoc, List.cons_append, List.nil_append]
    rw [hbrace, scan_newline, hfields, Option.map_map]
    rfl

/-- The text of the entries of a record, up to its end, splits into the tokens of the entries. These
are the tokens after a further entry, but for the comma. -/
theorem scan_jsonFields : ∀ (fs : List (String × Report)), fs ≠ [] → ∀ (depth depth' : Nat)
    (cs : List Char), scan (Report.jsonFields depth fs ++ (newline depth' ++ '\x7d' :: cs)) =
      (scan cs).map ((tokensAfter fs).tail ++ ·)
  | [], h, _, _, _ => absurd rfl h
  | [(name, r)], _, depth, depth', cs => by
    have hvalue := scan_json r depth (noDigitFirst_newline depth' ('\x7d' :: cs))
    rw [Report.jsonFields, List.append_assoc, scan_name, hvalue, scan_newline, scan_rightBrace]
    cases scan cs with
    | none => rfl
    | some ts => simp [tokensAfter]
  | (name, r) :: f :: fs, _, depth, depth', cs => by
    -- A comma or the start of a line ends a number, since neither is a digit.
    have hvalue : ∀ cs', scan (r.json depth ++ ',' :: cs') =
        (scan (',' :: cs')).map (r.tokens ++ ·) :=
      fun cs' => scan_json r depth (by rintro c ⟨⟩; rfl)
    have hcomma : ∀ cs', scan (',' :: cs') = (scan cs').map (.comma :: ·) :=
      fun cs' => scan_of_token? rfl
    have hrest := scan_jsonFields (f :: fs) (by simp) depth depth' cs
    have htext : Report.jsonFields depth ((name, r) :: f :: fs) ++
          (newline depth' ++ '\x7d' :: cs) =
        string name ++ [':', ' '] ++ (r.json depth ++ ',' :: (newline depth ++
          (Report.jsonFields depth (f :: fs) ++ (newline depth' ++ '\x7d' :: cs)))) := by
      simp only [Report.jsonFields, List.append_assoc, List.cons_append]
    rw [htext, scan_name, hvalue, hcomma, scan_newline, hrest]
    cases scan cs with
    | none => rfl
    | some ts => simp [tokensAfter]

end

/-! ## Reading the tokens -/

/-- The entry that comes after distinct others is put at their end. -/
theorem filled_of_nodup {fields : List (String × Report)} {name : String} {r : Report}
    {fs : List (String × Report)} (h : (Entries.keys (fields ++ (name, r) :: fs)).Nodup) :
    (Frame.mk fields name).filled r = fields ++ [(name, r)] := by
  refine Entries.insert_of_not_mem fun hname => ?_
  rw [Entries.keys, List.map_append, List.nodup_append] at h
  exact h.2.2 name hname name (by simp) rfl

mutual

/-- The tokens of a report are read as the report, within whatever records are open. -/
theorem readValue_tokens : ∀ (r : Report), r.Distinct → ∀ (ts : List Token)
    (stack : List Frame), readValue (r.tokens ++ ts) stack = readNext ts r stack
  | .null, _, _, _ => rfl
  | .flag _, _, _, _ => rfl
  | .number _, _, _, _ => rfl
  | .text _, _, _, _ => rfl
  | .record [], _, _, _ => rfl
  | .record ((name, r) :: fs), h, ts, stack => by
    have hvalue := readValue_tokens r h.2.1 (tokensAfter fs ++ ts) (⟨[], name⟩ :: stack)
    have hrest := readNext_tokensAfter fs h.2.2 [] name r h.1 ts stack
    rw [Report.tokens]
    show readValue (.leftBrace :: .text name :: .colon ::
      (r.tokens ++ tokensAfter fs ++ ts)) stack = _
    rw [readValue, List.append_assoc, hvalue, hrest]
    rfl

/-- The tokens after an entry are read as the entries that come after it, and the record is
closed. -/
theorem readNext_tokensAfter : ∀ (fs : List (String × Report)), DistinctFields fs →
    ∀ (fields : List (String × Report)) (name : String) (r : Report),
      (Entries.keys (fields ++ (name, r) :: fs)).Nodup → ∀ (ts : List Token) (stack : List Frame),
        readNext (tokensAfter fs ++ ts) r (⟨fields, name⟩ :: stack) =
          readNext ts (.record (fields ++ (name, r) :: fs)) stack
  | [], _, fields, name, r, hkeys, ts, stack => by
    show readNext (.rightBrace :: ts) r (⟨fields, name⟩ :: stack) = _
    rw [readNext, filled_of_nodup hkeys]
  | (name', r') :: fs, h, fields, name, r, hkeys, ts, stack => by
    -- The entry that was read joins those before it, and the names are still distinct.
    have hkeys' : (Entries.keys ((fields ++ [(name, r)]) ++ (name', r') :: fs)).Nodup := by
      rwa [List.append_assoc]
    have hvalue := readValue_tokens r' h.1 (tokensAfter fs ++ ts)
      (⟨fields ++ [(name, r)], name'⟩ :: stack)
    have hrest := readNext_tokensAfter fs h.2 (fields ++ [(name, r)]) name' r' hkeys' ts stack
    show readNext (.comma :: .text name' :: .colon :: (r'.tokens ++ tokensAfter fs ++ ts)) r
      (⟨fields, name⟩ :: stack) = _
    rw [readNext, filled_of_nodup hkeys, List.append_assoc, hvalue, hrest, List.append_assoc]
    rfl

end

end Json

/-- A report is read back from its JSON text, if no record in it has two entries of one name. White
space after the text does not matter. -/
theorem Report.ofJson?_toJson {r : Report} (h : r.Distinct) :
    ofJson? r.toJson = some r ∧ ofJson? (r.toJson ++ "\n") = some r := by
  have hvalue : readValue r.tokens [] = some r := by
    rw [← List.append_nil r.tokens, Json.readValue_tokens r h]
    rfl
  have hread : ∀ cs, Json.NoDigitFirst cs → scan cs = some [] →
      (scan (r.json 0 ++ cs)).bind (readValue · []) = some r := by
    intro cs hfirst hcs
    rw [Json.scan_json r 0 hfirst, hcs, Option.map_some, List.append_nil, Option.bind_some, hvalue]
  constructor
  · have htext : r.toJson.toList = r.json 0 ++ [] := by
      rw [List.append_nil]
      exact String.toList_ofList
    rw [ofJson?, htext]
    exact hread [] (by rintro c ⟨⟩) (by rw [scan])
  · have htext : (r.toJson ++ "\n").toList = r.json 0 ++ ['\n'] := by
      rw [String.toList_append, toJson, String.toList_ofList]
      rfl
    rw [ofJson?, htext]
    exact hread ['\n'] (by rintro c ⟨⟩; rfl) (by rw [Json.scan_space rfl, scan])

end StoreTuning
