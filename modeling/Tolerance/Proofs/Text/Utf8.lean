import Tolerance.Text.Utf8

namespace Tolerance

/-!
# Reading back what was encoded

The bytes of a text without surrogates are read back as the same text: each code
point is written in the form that strict decoding accepts.  Strict decoding
accepts nothing else, so that bytes are read exactly if they encode a text.
-/

namespace CodePoint

@[simp] theorem ofNat_val (point : CodePoint) : ofNat point.val = point := by
  simp [ofNat]

/-- A number below the limit is the number of its code point. -/
theorem ofNat_eq
    {number : Nat}
    {point : CodePoint}
    (same : number = point.val) :
    ofNat number = point := by
  rw [same, ofNat_val]

/-- The code point of a number below the limit has this number. -/
theorem val_ofNat
    {number : Nat}
    (bound : number < 0x110000) :
    (ofNat number).val = number := by
  simp [ofNat, bound]

end CodePoint

namespace Utf8

private theorem toNat_byte
    (number : Nat)
    (bound : number < 0x100) :
    (UInt8.ofNat number).toNat = number :=
  UInt8.toNat_ofNat_of_lt' bound

private theorem step_one
    (point : CodePoint)
    (high : point.val < 0x80)
    (rest : Bytes) :
    step (UInt8.ofNat point.val) rest = .decoded point 1 := by
  have lead := toNat_byte point.val (by omega)
  unfold step
  simp only [lead, high, ↓reduceIte, CodePoint.ofNat_val]

/-- A number below 0x800 is read from two bytes. -/
private theorem step_two
    (point : CodePoint)
    (low : 0x80 ≤ point.val)
    (high : point.val < 0x800)
    (rest : Bytes) :
    step (UInt8.ofNat (0xc0 + point.val / 0x40))
        (UInt8.ofNat (0x80 + point.val % 0x40) :: rest) =
      .decoded point 2 := by
  have lead := toNat_byte (0xc0 + point.val / 0x40) (by omega)
  have second := toNat_byte (0x80 + point.val % 0x40) (by omega)
  have continued :
      continues 0x80 0xbf (UInt8.ofNat (0x80 + point.val % 0x40)) = true := by
    simp only [continues, second, decide_eq_true_eq]
    omega
  unfold step
  simp only [lead, continued, payload, second]
  rw [if_neg (by omega), if_neg (by omega), if_pos (by omega), if_pos trivial]
  exact congrArg (Step.decoded · 2) (CodePoint.ofNat_eq (by omega))

/-- A number below 0x10000 that is no surrogate is read from three bytes. -/
private theorem step_three
    (point : CodePoint)
    (low : 0x800 ≤ point.val)
    (high : point.val < 0x10000)
    (scalar : point.isSurrogate = false)
    (rest : Bytes) :
    step (UInt8.ofNat (0xe0 + point.val / 0x1000))
        (UInt8.ofNat (0x80 + point.val / 0x40 % 0x40) ::
          UInt8.ofNat (0x80 + point.val % 0x40) :: rest) =
      .decoded point 3 := by
  have notSurrogate : point.val < 0xd800 ∨ 0xe000 ≤ point.val := by
    simp only [CodePoint.isSurrogate, Bool.and_eq_false_iff,
      decide_eq_false_iff_not] at scalar
    omega
  have lead := toNat_byte (0xe0 + point.val / 0x1000) (by omega)
  have second :=
    toNat_byte (0x80 + point.val / 0x40 % 0x40) (by omega)
  have third := toNat_byte (0x80 + point.val % 0x40) (by omega)
  have secondContinues :
      continues (if 0xe0 + point.val / 0x1000 = 0xe0 then 0xa0 else 0x80)
        (if 0xe0 + point.val / 0x1000 = 0xed then 0x9f else 0xbf)
        (UInt8.ofNat (0x80 + point.val / 0x40 % 0x40)) = true := by
    simp only [continues, second, decide_eq_true_eq]
    split <;> split <;> omega
  have thirdContinues :
      continues 0x80 0xbf (UInt8.ofNat (0x80 + point.val % 0x40)) = true := by
    simp only [continues, third, decide_eq_true_eq]
    omega
  unfold step
  simp only [lead, secondContinues, thirdContinues, payload, second, third]
  rw [if_neg (by omega), if_neg (by omega), if_neg (by omega),
    if_pos (by omega), if_pos trivial, if_pos trivial]
  exact congrArg (Step.decoded · 3) (CodePoint.ofNat_eq (by omega))

/-- A number from 0x10000 on is read from four bytes. -/
private theorem step_four
    (point : CodePoint)
    (low : 0x10000 ≤ point.val)
    (rest : Bytes) :
    step (UInt8.ofNat (0xf0 + point.val / 0x40000))
        (UInt8.ofNat (0x80 + point.val / 0x1000 % 0x40) ::
          UInt8.ofNat (0x80 + point.val / 0x40 % 0x40) ::
            UInt8.ofNat (0x80 + point.val % 0x40) :: rest) =
      .decoded point 4 := by
  have high : point.val < 0x110000 := point.isLt
  have lead := toNat_byte (0xf0 + point.val / 0x40000) (by omega)
  have second :=
    toNat_byte (0x80 + point.val / 0x1000 % 0x40) (by omega)
  have third :=
    toNat_byte (0x80 + point.val / 0x40 % 0x40) (by omega)
  have fourth := toNat_byte (0x80 + point.val % 0x40) (by omega)
  have secondContinues :
      continues (if 0xf0 + point.val / 0x40000 = 0xf0 then 0x90 else 0x80)
        (if 0xf0 + point.val / 0x40000 = 0xf4 then 0x8f else 0xbf)
        (UInt8.ofNat (0x80 + point.val / 0x1000 % 0x40)) = true := by
    simp only [continues, second, decide_eq_true_eq]
    split <;> split <;> omega
  have thirdContinues :
      continues 0x80 0xbf
        (UInt8.ofNat (0x80 + point.val / 0x40 % 0x40)) = true := by
    simp only [continues, third, decide_eq_true_eq]
    omega
  have fourthContinues :
      continues 0x80 0xbf (UInt8.ofNat (0x80 + point.val % 0x40)) = true := by
    simp only [continues, fourth, decide_eq_true_eq]
    omega
  unfold step
  simp only [lead, secondContinues, thirdContinues, fourthContinues, payload,
    second, third, fourth]
  rw [if_neg (by omega), if_neg (by omega), if_neg (by omega),
    if_neg (by omega), if_pos (by omega), if_pos trivial, if_pos trivial,
    if_pos trivial]
  exact congrArg (Step.decoded · 4) (CodePoint.ofNat_eq (by omega))

/-- The bytes of a code point that is no surrogate are read back as one step. -/
theorem step_encodePoint
    (point : CodePoint)
    (scalar : point.isSurrogate = false)
    (rest : Bytes) :
    ∃ lead others,
      encodePoint point = lead :: others ∧
        step lead (others ++ rest) = .decoded point (others.length + 1) := by
  unfold encodePoint
  dsimp only
  split
  · next high =>
      exact ⟨_, _, rfl, step_one point high rest⟩
  · next notOne =>
      split
      · next high =>
          exact ⟨_, _, rfl, step_two point (by omega) high rest⟩
      · next notTwo =>
          split
          · next high =>
              exact ⟨_, _, rfl,
                step_three point (by omega) high scalar rest⟩
          · next notThree =>
              exact ⟨_, _, rfl, step_four point (by omega) rest⟩

/-- The bytes that belong to the code point before them are passed over. -/
private theorem decodeFrom_skip
    (others : Bytes)
    (offset : Nat)
    (rest : Bytes) :
    decodeFrom others.length offset (others ++ rest) =
      decodeFrom 0 (offset + others.length) rest := by
  induction others generalizing offset with
  | nil =>
      rfl
  | cons byte later inductionHypothesis =>
      have passed :=
        inductionHypothesis (offset + 1)
      simpa [decodeFrom, Nat.add_assoc, Nat.add_comm 1] using passed

/--
From any offset on, the bytes of a text without surrogates are read back as
this text.
-/
private theorem decodeFrom_flatMap_encodePoint
    (text : Text)
    (scalars : ∀ point ∈ text, point.isSurrogate = false)
    (offset : Nat) :
    decodeFrom 0 offset (text.flatMap encodePoint) = .ok text := by
  induction text generalizing offset with
  | nil =>
      rfl
  | cons point later inductionHypothesis =>
      obtain ⟨scalar, laterScalars⟩ := List.forall_mem_cons.mp scalars
      obtain ⟨lead, others, shape, stepped⟩ :=
        step_encodePoint point scalar (later.flatMap encodePoint)
      have readLater :=
        inductionHypothesis laterScalars (offset + 1 + others.length)
      rw [List.flatMap_cons, shape, List.cons_append, decodeFrom, stepped]
      simp only [Nat.add_sub_cancel, decodeFrom_skip, readLater]

/-- The bytes of a text without surrogates are read back as this text. -/
theorem decode_flatMap_encodePoint
    {text : Text}
    (scalars : ∀ point ∈ text, point.isSurrogate = false) :
    decode (text.flatMap encodePoint) = .ok text :=
  decodeFrom_flatMap_encodePoint text scalars 0

/--
A byte below 0x80 is written in a path for the code point of its number alone.
-/
theorem exists_encodePathPoint_eq (point : CodePoint) :
    ∃ lead more,
      encodePathPoint point = lead :: more ∧
        (lead.toNat < 0x80 → lead.toNat = point.val ∧ more = []) := by
  unfold encodePathPoint
  split
  · next byte smuggled =>
      unfold smuggledByte? at smuggled
      split at smuggled
      · next bounds =>
          obtain rfl := Option.some.inj smuggled
          refine ⟨_, _, rfl, fun low => ?_⟩
          rw [UInt8.toNat_ofNat'] at low
          omega
      · cases smuggled
  · have limit := point.isLt
    unfold encodePoint
    dsimp only
    split
    · refine ⟨_, _, rfl, fun _ => ⟨?_, rfl⟩⟩
      rw [UInt8.toNat_ofNat']
      omega
    split
    · refine ⟨_, _, rfl, fun low => ?_⟩
      rw [UInt8.toNat_ofNat'] at low
      omega
    split
    · refine ⟨_, _, rfl, fun low => ?_⟩
      rw [UInt8.toNat_ofNat'] at low
      omega
    · refine ⟨_, _, rfl, fun low => ?_⟩
      rw [UInt8.toNat_ofNat'] at low
      omega

/-! ## Only what was encoded is read -/

private theorem ofNat_eq_byte
    (byte : UInt8)
    {number : Nat}
    (same : number = byte.toNat) :
    UInt8.ofNat number = byte := by
  rw [same, UInt8.ofNat_toNat]

private theorem bounds_of_continues
    {low high : Nat}
    {byte : UInt8}
    (continued : continues low high byte = true) :
    low ≤ byte.toNat ∧ byte.toNat ≤ high :=
  of_decide_eq_true continued

private theorem isSurrogate_eq_false
    {point : CodePoint}
    (outside : point.val < 0xd800 ∨ 0xe000 ≤ point.val) :
    point.isSurrogate = false := by
  simp only [CodePoint.isSurrogate, Bool.and_eq_false_iff,
    decide_eq_false_iff_not]
  omega

/-- The two bytes that a code point is read from are written for it. -/
private theorem encodePoint_two
    {point : CodePoint}
    {lead second : UInt8}
    (low : 0xc2 ≤ lead.toNat)
    (high : lead.toNat < 0xe0)
    (continued : continues 0x80 0xbf second = true)
    (value : point.val = lead.toNat % 0x20 * 0x40 + payload second) :
    encodePoint point = [lead, second] ∧ point.isSurrogate = false := by
  have secondBounds := bounds_of_continues continued
  simp only [payload] at value
  constructor
  · simp only [encodePoint]
    rw [if_neg (by omega), if_pos (by omega), ofNat_eq_byte lead (by omega),
      ofNat_eq_byte second (by omega)]
  · exact isSurrogate_eq_false (Or.inl (by omega))

/-- The three bytes that a code point is read from are written for it. -/
private theorem encodePoint_three
    {point : CodePoint}
    {lead second third : UInt8}
    (low : 0xe0 ≤ lead.toNat)
    (high : lead.toNat < 0xf0)
    (secondContinued :
      continues (if lead.toNat = 0xe0 then 0xa0 else 0x80)
        (if lead.toNat = 0xed then 0x9f else 0xbf) second = true)
    (thirdContinued : continues 0x80 0xbf third = true)
    (value :
      point.val =
        lead.toNat % 0x10 * 0x1000 + payload second * 0x40 + payload third) :
    encodePoint point = [lead, second, third] ∧ point.isSurrogate = false := by
  have secondBounds := bounds_of_continues secondContinued
  have thirdBounds := bounds_of_continues thirdContinued
  have secondRange :
      0x80 ≤ second.toNat ∧ second.toNat ≤ 0xbf ∧
        (lead.toNat = 0xe0 → 0xa0 ≤ second.toNat) ∧
        (lead.toNat = 0xed → second.toNat ≤ 0x9f) := by
    split at secondBounds <;> split at secondBounds <;> omega
  simp only [payload] at value
  constructor
  · simp only [encodePoint]
    rw [if_neg (by omega), if_neg (by omega), if_pos (by omega),
      ofNat_eq_byte lead (by omega), ofNat_eq_byte second (by omega),
      ofNat_eq_byte third (by omega)]
  · apply isSurrogate_eq_false
    omega

/-- The four bytes that a code point is read from are written for it. -/
private theorem encodePoint_four
    {point : CodePoint}
    {lead second third fourth : UInt8}
    (low : 0xf0 ≤ lead.toNat)
    (high : lead.toNat < 0xf5)
    (secondContinued :
      continues (if lead.toNat = 0xf0 then 0x90 else 0x80)
        (if lead.toNat = 0xf4 then 0x8f else 0xbf) second = true)
    (thirdContinued : continues 0x80 0xbf third = true)
    (fourthContinued : continues 0x80 0xbf fourth = true)
    (value :
      point.val =
        lead.toNat % 0x08 * 0x40000 + payload second * 0x1000 +
          payload third * 0x40 + payload fourth) :
    encodePoint point = [lead, second, third, fourth] ∧
      point.isSurrogate = false := by
  have secondBounds := bounds_of_continues secondContinued
  have thirdBounds := bounds_of_continues thirdContinued
  have fourthBounds := bounds_of_continues fourthContinued
  have secondRange :
      0x80 ≤ second.toNat ∧ second.toNat ≤ 0xbf ∧
        (lead.toNat = 0xf0 → 0x90 ≤ second.toNat) := by
    split at secondBounds <;> split at secondBounds <;> omega
  simp only [payload] at value
  constructor
  · simp only [encodePoint]
    rw [if_neg (by omega), if_neg (by omega), if_neg (by omega),
      ofNat_eq_byte lead (by omega), ofNat_eq_byte second (by omega),
      ofNat_eq_byte third (by omega), ofNat_eq_byte fourth (by omega)]
  · exact isSurrogate_eq_false (Or.inr (by omega))

/-- What it means that bytes are those of a code point with a rest behind them. -/
private def Begins (lead : UInt8) (rest : Bytes) (point : CodePoint) (size : Nat) : Prop :=
  ∃ others later,
    rest = others ++ later ∧
      size = others.length + 1 ∧
      encodePoint point = lead :: others ∧
      point.isSurrogate = false

private theorem begins_of_step_one
    {lead : UInt8}
    {rest : Bytes}
    {point : CodePoint}
    {size : Nat}
    (high : lead.toNat < 0x80)
    (stepped : step lead rest = .decoded point size) :
    Begins lead rest point size := by
  simp only [step, high, ↓reduceIte] at stepped
  cases stepped
  have value : (CodePoint.ofNat lead.toNat).val = lead.toNat :=
    CodePoint.val_ofNat (by omega)
  refine ⟨[], rest, rfl, rfl, ?_, isSurrogate_eq_false (Or.inl (by omega))⟩
  simp only [encodePoint, value, high, ↓reduceIte, UInt8.ofNat_toNat]

private theorem begins_of_step_two
    {lead : UInt8}
    {rest : Bytes}
    {point : CodePoint}
    {size : Nat}
    (low : 0xc2 ≤ lead.toNat)
    (high : lead.toNat < 0xe0)
    (stepped : step lead rest = .decoded point size) :
    Begins lead rest point size := by
  unfold step at stepped
  dsimp only at stepped
  rw [if_neg (by omega), if_neg (by omega), if_pos high] at stepped
  rcases rest with _ | ⟨second, later⟩
  · cases stepped
  by_cases continued : continues 0x80 0xbf second = true
  · simp only [continued, ↓reduceIte] at stepped
    cases stepped
    have value := CodePoint.val_ofNat
      (show lead.toNat % 0x20 * 0x40 + payload second < 0x110000 by
        unfold payload
        omega)
    obtain ⟨encoded, scalar⟩ := encodePoint_two low high continued value
    exact ⟨[second], later, rfl, rfl, encoded, scalar⟩
  · simp [continued] at stepped

private theorem begins_of_step_three
    {lead : UInt8}
    {rest : Bytes}
    {point : CodePoint}
    {size : Nat}
    (low : 0xe0 ≤ lead.toNat)
    (high : lead.toNat < 0xf0)
    (stepped : step lead rest = .decoded point size) :
    Begins lead rest point size := by
  unfold step at stepped
  dsimp only at stepped
  rw [if_neg (by omega), if_neg (by omega), if_neg (by omega), if_pos high]
    at stepped
  rcases rest with _ | ⟨second, later⟩
  · cases stepped
  by_cases secondContinued :
      continues (if lead.toNat = 0xe0 then 0xa0 else 0x80)
        (if lead.toNat = 0xed then 0x9f else 0xbf) second = true
  · simp only [secondContinued, ↓reduceIte] at stepped
    rcases later with _ | ⟨third, later⟩
    · cases stepped
    by_cases thirdContinued : continues 0x80 0xbf third = true
    · simp only [thirdContinued, ↓reduceIte] at stepped
      cases stepped
      have value := CodePoint.val_ofNat
        (show lead.toNat % 0x10 * 0x1000 + payload second * 0x40 +
            payload third < 0x110000 by
          unfold payload
          omega)
      obtain ⟨encoded, scalar⟩ :=
        encodePoint_three low high secondContinued thirdContinued value
      exact ⟨[second, third], later, rfl, rfl, encoded, scalar⟩
    · simp [thirdContinued] at stepped
  · simp [secondContinued] at stepped

private theorem begins_of_step_four
    {lead : UInt8}
    {rest : Bytes}
    {point : CodePoint}
    {size : Nat}
    (low : 0xf0 ≤ lead.toNat)
    (high : lead.toNat < 0xf5)
    (stepped : step lead rest = .decoded point size) :
    Begins lead rest point size := by
  unfold step at stepped
  dsimp only at stepped
  rw [if_neg (by omega), if_neg (by omega), if_neg (by omega),
    if_neg (by omega), if_pos high] at stepped
  rcases rest with _ | ⟨second, later⟩
  · cases stepped
  by_cases secondContinued :
      continues (if lead.toNat = 0xf0 then 0x90 else 0x80)
        (if lead.toNat = 0xf4 then 0x8f else 0xbf) second = true
  · simp only [secondContinued, ↓reduceIte] at stepped
    rcases later with _ | ⟨third, later⟩
    · cases stepped
    by_cases thirdContinued : continues 0x80 0xbf third = true
    · simp only [thirdContinued, ↓reduceIte] at stepped
      rcases later with _ | ⟨fourth, later⟩
      · cases stepped
      by_cases fourthContinued : continues 0x80 0xbf fourth = true
      · simp only [fourthContinued, ↓reduceIte] at stepped
        cases stepped
        have secondBounds := bounds_of_continues secondContinued
        have value := CodePoint.val_ofNat
          (show lead.toNat % 0x08 * 0x40000 + payload second * 0x1000 +
              payload third * 0x40 + payload fourth < 0x110000 by
            unfold payload
            split at secondBounds <;> split at secondBounds <;> omega)
        obtain ⟨encoded, scalar⟩ :=
          encodePoint_four low high secondContinued thirdContinued
            fourthContinued value
        exact ⟨[second, third, fourth], later, rfl, rfl, encoded, scalar⟩
      · simp [fourthContinued] at stepped
    · simp [thirdContinued] at stepped
  · simp [secondContinued] at stepped

/--
Bytes that are read as one code point are those that are written for it, and it
is no surrogate.
-/
private theorem begins_of_step
    {lead : UInt8}
    {rest : Bytes}
    {point : CodePoint}
    {size : Nat}
    (stepped : step lead rest = .decoded point size) :
    Begins lead rest point size := by
  by_cases one : lead.toNat < 0x80
  · exact begins_of_step_one one stepped
  by_cases two : 0xc2 ≤ lead.toNat ∧ lead.toNat < 0xe0
  · exact begins_of_step_two two.1 two.2 stepped
  by_cases three : 0xe0 ≤ lead.toNat ∧ lead.toNat < 0xf0
  · exact begins_of_step_three three.1 three.2 stepped
  by_cases four : 0xf0 ≤ lead.toNat ∧ lead.toNat < 0xf5
  · exact begins_of_step_four four.1 four.2 stepped
  · -- No code point starts with any other byte.
    unfold step at stepped
    dsimp only at stepped
    rw [if_neg one] at stepped
    split at stepped
    · cases stepped
    · rw [if_neg (by omega), if_neg (by omega), if_neg (by omega)] at stepped
      cases stepped

/-- What is decoded has no surrogates, and its bytes are those decoded. -/
private theorem flatMap_encodePoint_of_decodeFrom
    {offset : Nat}
    {bytes : Bytes}
    {text : Text}
    (decoded : decodeFrom 0 offset bytes = .ok text) :
    text.flatMap encodePoint = bytes ∧
      ∀ point ∈ text, point.isSurrogate = false := by
  induction text generalizing offset bytes with
  | nil =>
      cases bytes with
      | nil =>
          exact ⟨rfl, fun _ member => by cases member⟩
      | cons byte rest =>
          rw [decodeFrom] at decoded
          split at decoded
          · cases decoded
          · split at decoded <;> cases decoded
  | cons first text inductionHypothesis =>
      cases bytes with
      | nil =>
          cases decoded
      | cons byte rest =>
          rw [decodeFrom] at decoded
          split at decoded
          · cases decoded
          next point size stepped =>
          split at decoded
          · next later readLater =>
              cases decoded
              obtain ⟨others, behind, rfl, rfl, encoded, scalar⟩ :=
                begins_of_step stepped
              rw [Nat.add_sub_cancel, decodeFrom_skip] at readLater
              obtain ⟨sameBytes, scalars⟩ := inductionHypothesis readLater
              constructor
              · rw [List.flatMap_cons, encoded, sameBytes, List.cons_append]
              · exact List.forall_mem_cons.mpr ⟨scalar, scalars⟩
          · cases decoded

theorem faultAt_eq_none_iff
    {offset : Nat}
    {text : Text} :
    faultAt offset text = none ↔
      ∀ point ∈ text, point.isSurrogate = false := by
  induction text generalizing offset with
  | nil =>
      simp [faultAt]
  | cons point text inductionHypothesis =>
      rw [faultAt, List.forall_mem_cons]
      cases half : point.isSurrogate with
      | true =>
          simp
      | false =>
          simp [inductionHypothesis]

/-- Strict decoding reads a text exactly from the bytes that encode it. -/
theorem decode_eq_ok_iff
    {bytes : Bytes}
    {text : Text} :
    decode bytes = .ok text ↔ encode text = .ok bytes := by
  constructor
  · intro decoded
    obtain ⟨sameBytes, scalars⟩ := flatMap_encodePoint_of_decodeFrom decoded
    rw [encode, faultAt_eq_none_iff.mpr scalars, sameBytes]
  · intro encoded
    unfold encode at encoded
    split at encoded
    · cases encoded
    · next noFault =>
        cases encoded
        exact decode_flatMap_encodePoint (faultAt_eq_none_iff.mp noFault)

end Utf8

/-- The characters of a string are no surrogates. -/
theorem Text.isSurrogate_of_mem_ofString
    {string : String}
    {point : CodePoint}
    (member : point ∈ Text.ofString string) :
    point.isSurrogate = false := by
  obtain ⟨character, _, rfl⟩ := List.mem_map.mp member
  have number : (CodePoint.ofChar character).val = character.toNat := rfl
  rw [CodePoint.isSurrogate, number, Bool.and_eq_false_iff,
    decide_eq_false_iff_not, decide_eq_false_iff_not]
  rcases character.valid with low | high
  · exact Or.inl (Nat.not_le.mpr low)
  · exact Or.inr (Nat.not_lt.mpr high.1)

end Tolerance
