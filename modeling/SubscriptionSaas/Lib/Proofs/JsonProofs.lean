import SubscriptionSaas.Lib.Json

/-!
# What is written can be read

`Json.parse` reads the text of a value back, unless the value has a negative zero, which is written
without its sign, or an object that has a key twice.
-/

@[simp] theorem Text.ofString_punctuation :
    ofString "," = [44] ∧ ofString ":" = [58] ∧ ofString "\"" = [34] ∧ ofString "[" = [91] ∧
      ofString "]" = [93] ∧ ofString "\x7b" = [123] ∧ ofString "\x7d" = [125] ∧
      ofString "." = [46] ∧ ofString "-" = [45] ∧ ofString "0" = [48] ∧ ofString "0." = [48, 46] ∧
      ofString "e-" = [101, 45] ∧ ofString "e+" = [101, 43] := by
  decide

@[simp] theorem Text.ofString_escapes :
    ofString "\\b" = [92, 98] ∧ ofString "\\t" = [92, 116] ∧ ofString "\\n" = [92, 110] ∧
      ofString "\\f" = [92, 102] ∧ ofString "\\r" = [92, 114] ∧ ofString "\\\"" = [92, 34] ∧
      ofString "\\\\" = [92, 92] := by
  decide

@[simp] theorem Text.ofString_literals :
    ofString "null" = [110, 117, 108, 108] ∧ ofString "true" = [116, 114, 117, 101] ∧
      ofString "false" = [102, 97, 108, 115, 101] := by
  decide

namespace Json

/-! ## Strings -/

theorem hex?_hexDigit {n : Nat} (h : n < 16) : hex? (Text.hexDigit n) = some n := by
  unfold hex? Text.hexDigit
  by_cases hdigit : n < 10
  · rw [if_pos hdigit, if_pos (by omega)]
    simp
  · rw [if_neg hdigit, if_neg (by omega), if_pos (by omega)]
    simp

theorem string?_end (rest : Text) : string? (34 :: rest) = some ([], rest) := by
  rw [string?.eq_def]
  rfl

theorem string?_cons {u : Nat} (rest : Text) (hquote : u ≠ 34) (hescape : u ≠ 92) (hcontrol : 32 ≤ u) :
    string? (u :: rest) = (string? rest).map fun p => (u :: p.1, p.2) := by
  rw [string?.eq_def]
  simp only [if_neg hquote, if_neg hescape, if_neg (show ¬ u < 32 by omega)]
  cases string? rest <;> rfl

theorem string?_unescape {e u : Nat} (rest : Text) (h : unescape? e = some u) (hunicode : e ≠ 117) :
    string? (92 :: e :: rest) = (string? rest).map fun p => (u :: p.1, p.2) := by
  rw [string?.eq_def]
  simp only [if_neg hunicode, h, Nat.reduceEqDiff, if_false, if_true]
  cases string? rest <;> rfl

theorem string?_unicodeEscape {u : Nat} (rest : Text) (h : u < 65536) :
    string? (Text.unicodeEscape u ++ rest) = (string? rest).map fun p => (u :: p.1, p.2) := by
  have hunit : 4096 * (u / 4096) + 256 * (u / 256 % 16) + 16 * (u / 16 % 16) + u % 16 = u := by omega
  simp only [Text.unicodeEscape, List.cons_append, List.nil_append]
  rw [string?.eq_def]
  simp only [Nat.reduceEqDiff, if_false, if_true, hex?_hexDigit (show u / 4096 < 16 by omega),
    hex?_hexDigit (show u / 256 % 16 < 16 by omega), hex?_hexDigit (show u / 16 % 16 < 16 by omega),
    hex?_hexDigit (show u % 16 < 16 by omega), Option.bind_eq_bind, Option.bind_some, hunit]
  cases string? rest <;> rfl

theorem string?_escape (u : Nat) (rest : Text) :
    string? (Text.escape u ++ rest) = (string? rest).map fun p => (u :: p.1, p.2) := by
  unfold Text.escape
  split_ifs with h₁ h₂ h₃ h₄ h₅ h₆ h₇ h₈
  · subst h₁; simpa using string?_unescape rest (by decide) (by decide)
  · subst h₂; simpa using string?_unescape rest (by decide) (by decide)
  · subst h₃; simpa using string?_unescape rest (by decide) (by decide)
  · subst h₄; simpa using string?_unescape rest (by decide) (by decide)
  · subst h₅; simpa using string?_unescape rest (by decide) (by decide)
  · subst h₆; simpa using string?_unescape rest (by decide) (by decide)
  · subst h₇; simpa using string?_unescape rest (by decide) (by decide)
  · refine string?_unicodeEscape rest ?_
    simp only [Text.isLead, Text.isTrail, Bool.and_eq_true, decide_eq_true_eq] at h₈
    omega
  · exact string?_cons rest h₆ h₇ (by omega)

theorem string?_escapes (text rest : Text) :
    string? (Text.escapes text ++ 34 :: rest) = some (text, rest) := by
  induction text using Text.escapes.induct with
  | case1 => exact string?_end rest
  | case2 u =>
    rw [Text.escapes, string?_escape, string?_end]
    rfl
  | case3 u v text hpair ih =>
    rw [Text.escapes, if_pos hpair]
    simp only [Text.isLead, Text.isTrail, Bool.and_eq_true, decide_eq_true_eq] at hpair
    rw [List.cons_append, List.cons_append, string?_cons _ (by omega) (by omega) (by omega),
      string?_cons _ (by omega) (by omega) (by omega), ih]
    rfl
  | case4 u v text hpair ih =>
    rw [Text.escapes, if_neg hpair, List.append_assoc, string?_escape, ih]
    rfl

/-- After its first quotation mark a quoted text is read back. -/
theorem string?_quote (text rest : Text) :
    ∃ escaped, text.quote ++ rest = 34 :: escaped ∧ string? escaped = some (text, rest) :=
  ⟨Text.escapes text ++ 34 :: rest, by simp [Text.quote], string?_escapes text rest⟩

/-! ## Numbers -/

/-- The rest of a text does not go on with a number. -/
def Ends (rest : Text) : Prop :=
  ∀ u ∈ rest.head?, digit? u = none ∧ u ≠ 46 ∧ u ≠ 69 ∧ u ≠ 101

theorem digit?_digitUnit (d : Fin 10) : digit? (Numeral.digitUnit d) = some d := by
  have hrange : 48 ≤ Numeral.digitUnit d ∧ Numeral.digitUnit d < 58 := by
    have hd := d.isLt
    unfold Numeral.digitUnit
    omega
  rw [digit?, dif_pos hrange]
  simp [Numeral.digitUnit]

theorem digits_of_head {rest : Text} (h : ∀ u ∈ rest.head?, digit? u = none) :
    digits rest = ([], rest) := by
  cases rest with
  | nil => rfl
  | cons u rest => rw [digits, h u rfl]

theorem digits_append (ds : List (Fin 10)) {rest : Text} (h : ∀ u ∈ rest.head?, digit? u = none) :
    digits (ds.map Numeral.digitUnit ++ rest) = (ds, rest) := by
  induction ds with
  | nil => exact digits_of_head h
  | cons d ds ih => simp [digits, digit?_digitUnit, ih]

theorem digits₁?_append {ds : List (Fin 10)} {rest : Text} (hne : ds ≠ [])
    (h : ∀ u ∈ rest.head?, digit? u = none) :
    digits₁? (ds.map Numeral.digitUnit ++ rest) = some (ds, rest) := by
  rw [digits₁?, digits_append ds h, if_neg hne]

/-- The digits that write a natural number give it back. -/
theorem ofNat_digits (n : Nat) :
    ∃ ds : List (Fin 10), ds ≠ [] ∧ Text.ofNat n = ds.map Numeral.digitUnit ∧ natOf ds = n := by
  let digit (c : Char) : Fin 10 := Fin.ofNat 10 (c.toNat - 48)
  have hdigit : ∀ c ∈ Nat.toDigits 10 n, 48 ≤ c.toNat ∧ c.toNat < 58 := by
    intro c hc
    have hc := Nat.isDigit_of_mem_toDigits (by decide) (by decide) hc
    simp only [Char.isDigit, Bool.and_eq_true, decide_eq_true_eq, UInt32.le_iff_toNat_le] at hc
    exact ⟨hc.1, Nat.lt_succ_of_le hc.2⟩
  refine ⟨(Nat.toDigits 10 n).map digit, by simp [Nat.toDigits_ne_nil], ?_, ?_⟩
  · rw [Text.ofNat, List.map_map]
    refine List.map_congr_left fun c hc => ?_
    have hc := hdigit c hc
    simp only [Function.comp, Numeral.digitUnit, digit, Fin.val_ofNat]
    omega
  · have hvalue : ∀ (cs : List Char) (start : Nat), (∀ c ∈ cs, 48 ≤ c.toNat ∧ c.toNat < 58) →
        (cs.map digit).foldl (fun (n : Nat) (d : Fin 10) => 10 * n + d.val) start =
          Nat.ofDigitChars 10 cs start := by
      intro cs
      induction cs with
      | nil => intro start _; rfl
      | cons c cs ih =>
        intro start hcs
        have hc := hcs c List.mem_cons_self
        have hdc : (digit c : Nat) = c.toNat - '0'.toNat := by
          simp only [digit, Fin.val_ofNat]
          exact Nat.mod_eq_of_lt (by omega)
        rw [List.map_cons, List.foldl_cons, Nat.ofDigitChars_cons, hdc]
        exact ih _ fun c' hc' => hcs c' (List.mem_cons_of_mem _ hc')
    rw [natOf, hvalue _ 0 hdigit, Nat.ofDigitChars_ten_toDigits]

theorem exponent?_exponentText (e : Int) {rest : Text} (h : ∀ u ∈ rest.head?, digit? u = none) :
    exponent? (Numeral.exponentText e ++ rest) = some (e, rest) := by
  obtain ⟨ds, hne, htext, hvalue⟩ := ofNat_digits e.natAbs
  have hdigits := digits₁?_append hne h
  unfold Numeral.exponentText
  rw [htext]
  by_cases hneg : e < 0
  · have he : -(natOf ds : Int) = e := by omega
    simp [hneg, exponent?, hdigits, he]
  · have he : (natOf ds : Int) = e := by omega
    simp [hneg, exponent?, hdigits, he]

theorem exponent?_ends {rest : Text} (h : Ends rest) : exponent? rest = some (0, rest) := by
  cases rest with
  | nil => rfl
  | cons u rest =>
    obtain ⟨-, -, hupper, hlower⟩ := h u rfl
    rw [exponent?, if_neg (by omega)]

theorem fraction?_of_head {rest : Text} (h : ∀ u ∈ rest.head?, u ≠ 46) :
    fraction? rest = some ([], rest) := by
  cases rest with
  | nil => rfl
  | cons u rest => rw [fraction?, if_neg (h u rfl)]

theorem fraction?_append {ds : List (Fin 10)} {rest : Text} (hne : ds ≠ [])
    (h : ∀ u ∈ rest.head?, digit? u = none) :
    fraction? (46 :: (ds.map Numeral.digitUnit ++ rest)) = some (ds, rest) := by
  rw [fraction?, if_pos rfl, digits₁?_append hne h]

/-- The digits of a number give it back when zeros are written before and after them. -/
theorem ofDigits_padded (x : Numeral) (hx : x.digits ≠ []) (before after : Nat) :
    Numeral.ofDigits x.negative (List.replicate before 0 ++ x.digits ++ List.replicate after 0)
      (before + x.point) = x := by
  have hhead : x.digits.takeWhile (· = 0) = [] ∧ x.digits.dropWhile (· = 0) = x.digits := by
    have hhead := x.head
    cases hds : x.digits with
    | nil => exact ⟨rfl, rfl⟩
    | cons d ds =>
      have hd : d ≠ 0 := by
        rintro rfl
        exact hhead (by rw [hds]; rfl)
      simp [hd]
  have hlast : ∀ after : Nat, (x.digits ++ List.replicate after 0).rdropWhile (· = 0) = x.digits := by
    intro after
    induction after with
    | zero =>
      rw [List.replicate_zero, List.append_nil, List.rdropWhile_eq_self_iff]
      intro hne hzero
      exact x.last (by rw [List.getLast?_eq_some_getLast hne, of_decide_eq_true hzero])
    | succ after ih =>
      rw [List.replicate_succ', ← List.append_assoc, List.rdropWhile_concat_pos _ _ _ (by simp), ih]
  have hdrop : (List.replicate before 0 ++ x.digits ++ List.replicate after 0).dropWhile (· = 0) =
      x.digits ++ List.replicate after 0 := by
    rw [List.append_assoc, List.dropWhile_append_of_pos (by simp), List.dropWhile_append, hhead.2]
    simp [hx]
  have htake : ((List.replicate before 0 ++ x.digits ++ List.replicate after 0).takeWhile
      (· = (0 : Fin 10))).length = before := by
    rw [List.append_assoc, List.takeWhile_append_of_pos (by simp), List.takeWhile_append, hhead.1,
      if_neg (by simpa using Ne.symm (mt List.length_eq_zero_iff.mp hx))]
    simp
  have hdigits : ((List.replicate before 0 ++ x.digits ++ List.replicate after 0).dropWhile
      (· = (0 : Fin 10))).rdropWhile (· = 0) = x.digits := by
    rw [hdrop, hlast]
  cases x with
  | mk negative ds point head last zero =>
    simp only [Numeral.ofDigits, Numeral.mk.injEq, true_and]
    refine ⟨hdigits, ?_⟩
    rw [if_neg (by rw [hdigits]; exact hx), htake]
    omega

theorem number?_whole (negative : Bool) (whole : List (Fin 10)) {part : List (Fin 10)}
    {more tail rest : Text} {e : Int}
    (hwhole : whole ≠ []) (hzero : ¬ (whole.head? = some 0 ∧ 1 < whole.length))
    (hmore : ∀ u ∈ more.head?, digit? u = none) (hfraction : fraction? more = some (part, tail))
    (hexponent : exponent? tail = some (e, rest)) :
    number? ((if negative then [45] else []) ++ (whole.map Numeral.digitUnit ++ more)) =
      some (.ofDigits negative (whole ++ part) (whole.length + e), rest) := by
  have hdigits := digits₁?_append hwhole hmore
  cases negative with
  | true =>
    have hdigits' : digits₁? (((if true then [45] else []) ++
        (whole.map Numeral.digitUnit ++ more)).tail) = some (whole, more) := hdigits
    simp [number?, hdigits, hzero, hfraction, hexponent]
  | false =>
    have hhead : (whole.map Numeral.digitUnit ++ more).head? ≠ some 45 := by
      cases whole with
      | nil => exact absurd rfl hwhole
      | cons d ds =>
        simp only [List.map_cons, List.cons_append, List.head?_cons, ne_eq, Option.some.injEq,
          Numeral.digitUnit]
        omega
    simp only [Bool.false_eq_true, if_false, List.nil_append]
    generalize whole.map Numeral.digitUnit ++ more = text at hdigits hhead
    simp [number?, hhead, hdigits, hzero, hfraction, hexponent]

/-- A number is read back from its digits when a point, zeros and an exponent agree with where its
own point is. -/
theorem number?_parts (x : Numeral) (hx : x.digits ≠ []) (before after : Nat)
    (whole : List (Fin 10)) {part : List (Fin 10)} {more tail rest : Text} {e : Int} (hwhole : whole ≠ [])
    (hzero : ¬ (whole.head? = some 0 ∧ 1 < whole.length))
    (hmore : ∀ u ∈ more.head?, digit? u = none) (hfraction : fraction? more = some (part, tail))
    (hexponent : exponent? tail = some (e, rest))
    (hdigits : whole ++ part = List.replicate before 0 ++ x.digits ++ List.replicate after 0)
    (hpoint : whole.length + e = before + x.point) :
    number? ((if x.negative then [45] else []) ++ (whole.map Numeral.digitUnit ++ more)) =
      some (x, rest) := by
  rw [number?_whole x.negative whole hwhole hzero hmore hfraction hexponent, hdigits, hpoint,
    ofDigits_padded x hx]

/-- The shortest decimal of a number is read back. -/
theorem number?_text {x : Numeral} (hx : x.isNegativeZero = false) {rest : Text} (hrest : Ends rest) :
    number? (x.text ++ rest) = some (x, rest) := by
  have hdigit : ∀ u ∈ rest.head?, digit? u = none := fun u hu => (hrest u hu).1
  have hpoint : ∀ u ∈ rest.head?, u ≠ 46 := fun u hu => (hrest u hu).2.1
  have hzeros : ∀ m, List.replicate m 48 = (List.replicate m (0 : Fin 10)).map Numeral.digitUnit :=
    fun m => by simp [Numeral.digitUnit]
  have hexponent : ∀ e, ∀ u ∈ (Numeral.exponentText e ++ rest).head?, digit? u = none ∧ u ≠ 46 := by
    intro e u hu
    unfold Numeral.exponentText at hu
    split_ifs at hu <;> simp at hu <;> subst hu <;> decide
  by_cases hnil : x.digits = []
  · have hvalue : Numeral.ofDigits false [0] 1 = x := by
      have hpoint := x.zero hnil
      cases x with
      | mk negative ds point head last zero =>
        subst hnil hpoint
        simp only [Numeral.isNegativeZero, List.isEmpty_nil, Bool.and_true] at hx
        subst hx
        rfl
    have hread := number?_whole false [0] (by decide) (by decide) hdigit
      (fraction?_of_head hpoint) (exponent?_ends hrest)
    simpa [Numeral.text, hnil, hvalue, Numeral.digitUnit] using hread
  · have hlength : 0 < x.digits.length := List.length_pos_iff.mpr hnil
    have hhead : ∀ more : List (Fin 10), (x.digits ++ more).head? ≠ some 0 := by
      intro more h
      rw [List.head?_append_of_ne_nil _ hnil] at h
      exact x.head h
    simp only [Numeral.text, if_neg hnil, Text.ofString_punctuation]
    rw [List.append_assoc]
    generalize hsign : (if x.negative = true then [45] else []) = sign
    split_ifs with hinteger hpointed hsmall hsingle <;> rw [← hsign]
    · -- the digits and zeros
      rw [hzeros, ← List.map_append]
      exact number?_parts x hnil 0 (x.point - x.digits.length).toNat _ (by simp [hnil])
        (fun h => hhead _ h.1) hdigit (fraction?_of_head hpoint) (exponent?_ends hrest) (by simp)
        (by simp; omega)
    · -- the point stands among the digits
      have hdrop : x.digits.drop x.point.toNat ≠ [] := by
        rw [ne_eq, List.drop_eq_nil_iff]
        omega
      have htake : x.digits.take x.point.toNat ≠ [] := by
        simp only [ne_eq, List.take_eq_nil_iff, hnil, or_false]
        omega
      have htakehead : (x.digits.take x.point.toNat).head? ≠ some 0 := by
        intro h
        rw [List.head?_take, if_neg (by omega)] at h
        exact x.head h
      have hread := number?_parts x hnil 0 0 _ htake (fun h => htakehead h.1) (by simp; decide)
        (fraction?_append hdrop hdigit) (exponent?_ends hrest) (by simp) (by simp; omega)
      simpa using hread
    · -- zeros stand before the digits
      have hdigits : List.replicate (-x.point).toNat 0 ++ x.digits ≠ [] := by simp [hnil]
      have hread := number?_parts x hnil ((-x.point).toNat + 1) 0 [0] (by decide) (by decide)
        (by simp; decide) (fraction?_append hdigits hdigit) (exponent?_ends hrest)
        (by simp [List.replicate_succ]) (by simp; omega)
      simpa [Numeral.digitUnit] using hread
    · -- one digit and an exponent
      have hread := number?_parts x hnil 0 0 x.digits hnil (fun h => by omega)
        (fun u hu => (hexponent _ u hu).1) (fraction?_of_head fun u hu => (hexponent _ u hu).2)
        (exponent?_exponentText (x.point - 1) hdigit) (by simp) (by simp; omega)
      simpa using hread
    · -- a point after the first digit and an exponent
      have hdrop : x.digits.drop 1 ≠ [] := by
        rw [ne_eq, List.drop_eq_nil_iff]
        omega
      have htake : (x.digits.take 1).length = 1 := by
        rw [List.length_take]
        omega
      have hread := number?_parts x hnil 0 0 (x.digits.take 1) (by intro h; simp [h] at htake)
        (fun h => by omega) (by simp; decide)
        (fraction?_append hdrop fun u hu => (hexponent _ u hu).1)
        (exponent?_exponentText (x.point - 1) hdigit) (by simpa using List.take_append_drop 1 x.digits)
        (by omega)
      simpa using hread

/-! ## Values -/

theorem writeValues_eq (values : List Json) : writeValues values = values.map write := by
  induction values with
  | nil => rfl
  | cons v values ih => rw [writeValues, List.map_cons, ih]

theorem writeMembers_eq (members : List (Text × Json)) :
    writeMembers members =
      members.map fun m => m.1.quote ++ Text.ofString ":" ++ m.2.write := by
  induction members with
  | nil => rfl
  | cons m members ih => rw [writeMembers, List.map_cons, ih]

@[simp] theorem join_nil : Text.join [] = [] := rfl

@[simp] theorem join_singleton (text : Text) : Text.join [text] = text := by
  simp [Text.join, List.intercalate]

@[simp] theorem join_cons_cons (text next : Text) (texts : List Text) :
    Text.join (text :: next :: texts) = text ++ 44 :: Text.join (next :: texts) := by
  simp [Text.join, List.intercalate]

theorem ends_cons {u : Nat} (h : u = 44 ∨ u = 93 ∨ u = 125) (rest : Text) : Ends (u :: rest) := by
  intro v hv
  rw [List.head?_cons, Option.mem_some_iff] at hv
  subst hv
  rcases h with rfl | rfl | rfl <;> decide

theorem ends_nil : Ends [] := fun _ h => absurd h (by simp)

theorem number?_head {u : Nat} {rest : Text} (h : (number? (u :: rest)).isSome) :
    u = 45 ∨ 48 ≤ u ∧ u < 58 := by
  by_contra hu
  have hdigit : digit? u = none := dif_neg fun hrange => hu (Or.inr hrange)
  have hsign : u ≠ 45 := fun hsign => hu (Or.inl hsign)
  simp [number?, hsign, digits₁?, digits, hdigit] at h

/-- The text of a value begins with no white space and with no bracket that closes. -/
theorem write_head {j : Json} (hj : Canonical j) :
    ∃ u us, j.write = u :: us ∧ u ≠ 93 ∧ ∀ rest, skip (u :: rest) = u :: rest := by
  have hskip : ∀ u : Nat, (u ≠ 9 ∧ u ≠ 10 ∧ u ≠ 13 ∧ u ≠ 32) → ∀ rest, skip (u :: rest) = u :: rest :=
    fun u hu rest => List.dropWhile_cons_of_neg (by simpa using hu)
  cases hj with
  | null => exact ⟨110, _, rfl, by decide, hskip 110 (by decide)⟩
  | boolean b =>
    cases b with
    | false => exact ⟨102, _, rfl, by decide, hskip 102 (by decide)⟩
    | true => exact ⟨116, _, rfl, by decide, hskip 116 (by decide)⟩
  | @number x h =>
    have hread := number?_text h ends_nil
    rw [List.append_nil] at hread
    cases htext : x.text with
    | nil =>
      rw [htext] at hread
      simp [number?, digits₁?, digits] at hread
    | cons u us =>
      have hsome : (number? (u :: us)).isSome := by
        rw [← htext, hread]
        rfl
      have hu := number?_head hsome
      exact ⟨u, us, htext, by omega, hskip u (by omega)⟩
  | string text => exact ⟨34, _, rfl, by decide, hskip 34 (by decide)⟩
  | array h => exact ⟨91, _, rfl, by decide, hskip 91 (by decide)⟩
  | object hkeys h => exact ⟨123, _, rfl, by decide, hskip 123 (by decide)⟩

@[simp] theorem skip_cons {u : Nat} (h : u ≠ 9 ∧ u ≠ 10 ∧ u ≠ 13 ∧ u ≠ 32) (rest : Text) :
    skip (u :: rest) = u :: rest :=
  List.dropWhile_cons_of_neg (by simpa using h)

theorem value?_number {u : Nat} (h : u = 45 ∨ 48 ≤ u ∧ u < 58) (fuel : Nat) (rest : Text) :
    value? (fuel + 1) (u :: rest) = (number? (u :: rest)).map fun (x, rest) => (number x, rest) := by
  rw [value?, skip_cons (by omega)]
  split <;> rename_i heq <;> first | rfl | (cases heq; omega)

theorem values?_write {values : List Json} (hne : values ≠ [])
    (hread : ∀ v ∈ values, ∀ fuel rest, 2 * v.write.length ≤ fuel → Ends rest →
      value? fuel (v.write ++ rest) = some (v, rest)) (fuel : Nat) (rest : Text)
    (hfuel : 2 * (Text.join (values.map write)).length + 1 ≤ fuel) :
    values? fuel (Text.join (values.map write) ++ 93 :: rest) = some (values, rest) := by
  induction values generalizing fuel with
  | nil => exact absurd rfl hne
  | cons v values ih =>
    obtain ⟨fuel, rfl⟩ : ∃ f, fuel = f + 1 := ⟨fuel - 1, by omega⟩
    cases values with
    | nil =>
      have hv := hread v List.mem_cons_self fuel (93 :: rest) (by simpa using hfuel)
        (ends_cons (by omega) rest)
      simp [values?, hv]
    | cons w values =>
      simp only [List.map_cons, join_cons_cons, List.length_append, List.length_cons] at hfuel
      have hv := hread v List.mem_cons_self fuel
        (44 :: (Text.join ((w :: values).map write) ++ 93 :: rest)) (by omega) (ends_cons (by omega) _)
      have hvs := ih (by simp) (fun v' hv' => hread v' (List.mem_cons_of_mem _ hv')) fuel (by simp only [List.map_cons]; omega)
      rw [List.map_cons] at hv hvs
      simp [values?, hv, hvs]

theorem length_quote (text : Text) : 2 ≤ text.quote.length := by
  simp [Text.quote]

theorem members?_write {members : List (Text × Json)} (hne : members ≠ [])
    (hkeys : (members.map Prod.fst).Nodup)
    (hread : ∀ m ∈ members, ∀ fuel rest, 2 * m.2.write.length ≤ fuel → Ends rest →
      value? fuel (m.2.write ++ rest) = some (m.2, rest)) (fuel : Nat) (rest : Text)
    (hfuel : 2 * (Text.join (writeMembers members)).length + 1 ≤ fuel) :
    members? fuel (Text.join (writeMembers members) ++ 125 :: rest) = some (members, rest) := by
  induction members generalizing fuel with
  | nil => exact absurd rfl hne
  | cons m members ih =>
    obtain ⟨fuel, rfl⟩ : ∃ f, fuel = f + 1 := ⟨fuel - 1, by omega⟩
    obtain ⟨key, v⟩ := m
    have hquote := length_quote key
    have hreadv : ∀ fuel rest, 2 * v.write.length ≤ fuel → Ends rest →
        value? fuel (v.write ++ rest) = some (v, rest) := hread (key, v) List.mem_cons_self
    cases members with
    | nil =>
      have hv := hreadv fuel (125 :: rest)
        (by simp [writeMembers] at hfuel; omega) (ends_cons (by omega) rest)
      obtain ⟨escaped, htext, hkey⟩ := string?_quote key (58 :: (v.write ++ 125 :: rest))
      simp [members?, writeMembers, htext, hkey, hv]
    | cons w members =>
      simp only [writeMembers, join_cons_cons, List.length_append, List.length_cons] at hfuel
      obtain ⟨hfresh, hkeys⟩ := List.nodup_cons.mp hkeys
      have hv := hreadv fuel
        (44 :: (Text.join (writeMembers (w :: members)) ++ 125 :: rest)) (by omega)
        (ends_cons (by omega) _)
      have hms := ih (by simp) hkeys (fun m hm => hread m (List.mem_cons_of_mem _ hm)) fuel
        (by simp only [writeMembers]; omega)
      obtain ⟨escaped, htext, hkey⟩ := string?_quote key
        (58 :: (v.write ++ 44 :: (Text.join (writeMembers (w :: members)) ++ 125 :: rest)))
      have hadd : addMember key v (w :: members) = (key, v) :: w :: members := by
        rw [addMember, if_neg]
        intro hany
        obtain ⟨m, hm, hkeym⟩ := List.any_eq_true.mp hany
        exact hfresh (List.mem_map.mpr ⟨m, hm, of_decide_eq_true hkeym⟩)
      have htext' : Text.join (writeMembers ((key, v) :: w :: members)) ++ 125 :: rest =
          34 :: escaped := by
        rw [← htext]
        simp [writeMembers]
      rw [htext']
      simp [members?, hkey, hv, hms, hadd]

theorem value?_array {fuel : Nat} {body rest : Text} {values : List Json} (hskip : skip body = body)
    (hopen : body.head? ≠ some 93) (h : values? fuel body = some (values, rest)) :
    value? (fuel + 1) (91 :: body) = some (array values, rest) := by
  simp [value?, hskip, hopen, h]

theorem value?_object {fuel : Nat} {body rest : Text} {members : List (Text × Json)}
    (hskip : skip body = body) (hopen : body.head? ≠ some 125)
    (h : members? fuel body = some (members, rest)) :
    value? (fuel + 1) (123 :: body) = some (object members, rest) := by
  simp [value?, hskip, hopen, h]

/-- The text of a value is read back, whatever stands after it. -/
theorem value?_write {j : Json} (hj : Canonical j) (fuel : Nat) (rest : Text)
    (hfuel : 2 * j.write.length ≤ fuel) (hrest : Ends rest) :
    value? fuel (j.write ++ rest) = some (j, rest) := by
  induction j generalizing fuel rest with
  | null =>
    obtain ⟨fuel, rfl⟩ : ∃ f, fuel = f + 1 := ⟨fuel - 1, by simp [write] at hfuel; omega⟩
    simp [value?, write]
  | boolean b =>
    obtain ⟨fuel, rfl⟩ : ∃ f, fuel = f + 1 :=
      ⟨fuel - 1, by cases b <;> simp [write] at hfuel <;> omega⟩
    cases b <;> simp [value?, write]
  | number x =>
    obtain ⟨u, us, htext, -, -⟩ := write_head hj
    obtain ⟨fuel, rfl⟩ : ∃ f, fuel = f + 1 := ⟨fuel - 1, by simp [htext] at hfuel; omega⟩
    cases hj with
    | number h =>
      have hread := number?_text h hrest
      rw [write] at htext ⊢
      rw [htext, List.cons_append] at hread ⊢
      rw [value?_number (number?_head (by rw [hread]; rfl)), hread]
      rfl
  | string text =>
    have hquote := length_quote text
    rw [write] at hfuel ⊢
    obtain ⟨fuel, rfl⟩ : ∃ f, fuel = f + 1 := ⟨fuel - 1, by omega⟩
    obtain ⟨escaped, htext, hread⟩ := string?_quote text rest
    simp [value?, htext, hread]
  | array values ih =>
    cases hj with
    | array hvalues =>
      rw [write, writeValues_eq] at hfuel ⊢
      obtain ⟨fuel, rfl⟩ : ∃ f, fuel = f + 1 := ⟨fuel - 1, by simp at hfuel; omega⟩
      cases values with
      | nil => simp [value?]
      | cons v values =>
        have htext : Text.ofString "[" ++ Text.join ((v :: values).map write) ++ Text.ofString "]" ++ rest =
            91 :: (Text.join ((v :: values).map write) ++ 93 :: rest) := by simp
        rw [htext]
        have hread := values?_write (List.cons_ne_nil v values)
          (fun w hw fuel rest => ih w hw (hvalues w hw) fuel rest) fuel rest
          (by simp only [Text.ofString_punctuation, List.length_append, List.length_singleton] at hfuel
              omega)
        obtain ⟨u, us, hv, hclose, hskip⟩ := write_head (hvalues v List.mem_cons_self)
        obtain ⟨us, hopen⟩ : ∃ us, Text.join ((v :: values).map write) ++ 93 :: rest = u :: us := by
          cases values <;> simp [hv]
        exact value?_array (by rw [hopen, hskip]) (by rw [hopen]; simpa using hclose) hread
  | object members ih =>
    cases hj with
    | object hkeys hmembers =>
      rw [write] at hfuel ⊢
      obtain ⟨fuel, rfl⟩ : ∃ f, fuel = f + 1 := ⟨fuel - 1, by simp at hfuel; omega⟩
      cases members with
      | nil => simp [value?, writeMembers]
      | cons m members =>
        have htext : Text.ofString "\x7b" ++ Text.join (writeMembers (m :: members)) ++
            Text.ofString "\x7d" ++ rest =
              123 :: (Text.join (writeMembers (m :: members)) ++ 125 :: rest) := by simp
        rw [htext]
        have hread := members?_write (List.cons_ne_nil m members) (hkeys.imp ne_of_lt)
          (fun w hw fuel rest => ih w hw (hmembers w hw) fuel rest) fuel rest
          (by simp only [Text.ofString_punctuation, List.length_append, List.length_singleton] at hfuel
              omega)
        obtain ⟨us, hopen⟩ :
            ∃ us, Text.join (writeMembers (m :: members)) ++ 125 :: rest = 34 :: us := by
          cases members <;> simp [writeMembers, Text.quote]
        exact value?_object (by rw [hopen]; rfl) (by rw [hopen]; simp) hread

/-- What is written is a JSON text, and it is the text of one value only. -/
theorem parse_write {j : Json} (hj : Canonical j) : parse j.write = some j := by
  have hread := value?_write hj (2 * j.write.length + 2) [] (by omega) ends_nil
  rw [List.append_nil] at hread
  simp [parse, hread, skip]

theorem write_injective {j k : Json} (hj : Canonical j) (hk : Canonical k) (h : j.write = k.write) :
    j = k := by
  have hread := parse_write hj
  rw [h, parse_write hk] at hread
  exact (Option.some.inj hread).symm

end Json
