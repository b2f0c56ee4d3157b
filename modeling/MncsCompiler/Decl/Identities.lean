import MncsCompiler.Decl.Nominals

/-!
# `Decl.Identities` — what an identity spells

Identities are built byte by byte in an array of 512 bytes. A build that would need more becomes invalid and stays so;
any other holds exactly the bytes that were put in (`IdentitySpells`). Components of names are escaped (`escaped`).
-/

namespace MncsCompiler.Decl

open BoundedLoop

/-- A build holds some bytes, or is invalid because they are too many. -/
structure IdentitySpells (build : SemanticIdentityBuild) (bytes : List UInt8) : Prop where
  valid : build.valid = true ↔ bytes.length ≤ 512
  contents : build.valid = true → build.len = bytes.length ∧ build.bytes.toList.take build.len = bytes

theorem identitySeed_spells : IdentitySpells identitySeed [] where
  valid := ⟨fun _ => Nat.zero_le _, fun _ => rfl⟩
  contents := fun _ => ⟨rfl, rfl⟩

variable {build : SemanticIdentityBuild} {bytes : List UInt8}

theorem IdentitySpells.byte (h : IdentitySpells build bytes) (value : UInt8) :
    IdentitySpells (callableIdentityByte build value) (bytes ++ [value]) := by
  rw [callableIdentityByte]
  by_cases hroom : build.valid = true ∧ build.len < 512
  · obtain ⟨hlen, hbytes⟩ := h.contents hroom.1
    rw [if_neg (by simp [hroom.1]; omega)]
    refine ⟨⟨fun _ => ?_, fun _ => hroom.1⟩, fun _ => ⟨?_, ?_⟩⟩
    · rw [List.length_append, List.length_singleton]
      omega
    · rw [List.length_append, List.length_singleton, hlen]
    · dsimp only
      rw [Vector.toList_setIfInBounds, List.take_add_one, List.take_set_of_le (Nat.le_refl _), hbytes,
        List.getElem?_set_self (by rw [Vector.length_toList]; exact hroom.2)]
      rfl
  · have hover : ¬ (bytes ++ [value]).length ≤ 512 := by
      rw [List.length_append, List.length_singleton]
      intro hle
      have hvalid := h.valid.mpr (by omega)
      exact hroom ⟨hvalid, by rw [(h.contents hvalid).1]; omega⟩
    rw [if_pos (by simpa [imp_iff_not_or] using hroom)]
    exact ⟨⟨fun hvalid => (nomatch hvalid), fun hle => absurd hle hover⟩, fun hvalid => (nomatch hvalid)⟩

theorem IdentitySpells.lead (h : IdentitySpells build bytes) (lead : List UInt8) :
    IdentitySpells (lead.foldl callableIdentityByte build) (bytes ++ lead) := by
  induction lead generalizing build bytes with
  | nil => simpa using h
  | cons value rest ih =>
      rw [List.foldl_cons, List.append_cons]
      exact ih (h.byte value)

/-! ## Escaped components -/

/-- The bytes of a component that stand for one byte. -/
def escaped (value : UInt8) : List UInt8 :=
  let raw := value.toNat
  if (raw ≥ 97 && raw ≤ 122) || (raw ≥ 65 && raw ≤ 90) || (raw ≥ 48 && raw ≤ 57) || raw = 95 || raw = 45 || raw = 46 then
    [value]
  else [37, identityHexDigit (raw / 16), identityHexDigit (raw % 16)]

theorem escaped_length_pos (value : UInt8) : 0 < (escaped value).length := by
  unfold escaped
  dsimp only
  split
  · exact Nat.zero_lt_one
  · exact Nat.zero_lt_succ 2

theorem IdentitySpells.componentByte (h : IdentitySpells build bytes) (value : UInt8) :
    IdentitySpells (identityComponentByte build value) (bytes ++ escaped value) := by
  unfold identityComponentByte escaped
  dsimp only
  split
  · exact h.byte value
  · have hthree := ((h.byte 37).byte (identityHexDigit (value.toNat / 16))).byte (identityHexDigit (value.toNat % 16))
    rw [List.append_assoc, List.append_assoc] at hthree
    exact hthree

/-- The bytes of a source at a span. -/
def spanBytes (src : Source) (start stop : Nat) : List UInt8 :=
  (List.range' start (stop - start)).map fun pos => UInt8.ofNat (src.byteAt pos)

theorem length_le_flatMap_escaped (bytes : List UInt8) : bytes.length ≤ (bytes.flatMap escaped).length := by
  induction bytes with
  | nil => exact Nat.le_refl _
  | cons value rest ih =>
      have hpos := escaped_length_pos value
      rw [List.flatMap_cons, List.length_append, List.length_cons]
      omega

/-- `n` passes over a component. -/
theorem iterate_identityComponentSpanStep (src : Source) (n : Nat) {pos stop : Nat} (h : IdentitySpells build bytes) :
    IdentitySpells ((identityComponentSpanStep src)^[n] { pos := pos, stop := stop, build := build }).build
      (bytes ++ ((spanBytes src pos stop).take n).flatMap escaped) := by
  induction n generalizing pos build bytes with
  | zero => simpa using h
  | succ n ih =>
      rw [Function.iterate_succ_apply, identityComponentSpanStep]
      dsimp only
      by_cases hdone : pos ≥ stop
      · have hempty : spanBytes src pos stop = [] := by
          rw [spanBytes, Nat.sub_eq_zero_of_le hdone]
          rfl
        have hfixed : identityComponentSpanStep src { pos := pos, stop := stop, build := build } =
            { pos := pos, stop := stop, build := build } := by
          rw [identityComponentSpanStep, if_pos (by simp [hdone])]
        rw [if_pos (by simp [hdone]), Function.iterate_fixed hfixed, hempty]
        simpa using h
      · have hcons : spanBytes src pos stop = UInt8.ofNat (src.byteAt pos) :: spanBytes src (pos + 1) stop := by
          rw [spanBytes, spanBytes, show stop - pos = (stop - (pos + 1)) + 1 by omega, List.range'_succ, List.map_cons]
        rw [hcons, List.take_succ_cons, List.flatMap_cons, ← List.append_assoc]
        cases hvalid : build.valid with
        | true =>
            rw [if_neg (by simpa using hdone)]
            exact ih (h.componentByte _)
        | false =>
            -- it stays invalid, and the bytes are too many
            have hfixed : identityComponentSpanStep src { pos := pos, stop := stop, build := build } =
                { pos := pos, stop := stop, build := build } := by
              rw [identityComponentSpanStep, if_pos (by simp [hvalid])]
            have hover : ¬ bytes.length ≤ 512 := fun hle => by
              rw [h.valid.mpr hle] at hvalid
              cases hvalid
            rw [if_pos (by simp), Function.iterate_fixed hfixed]
            refine ⟨⟨fun htrue => ?_, fun hle => ?_⟩, fun htrue => ?_⟩
            · rw [hvalid] at htrue
              cases htrue
            · rw [List.length_append, List.length_append] at hle
              omega
            · rw [hvalid] at htrue
              cases htrue

/-- **A component** adds its escaped bytes, or is too long. -/
theorem IdentitySpells.component (h : IdentitySpells build bytes) {src : Source} {start stop : Nat} (hle : start ≤ stop)
    (hstop : stop ≤ src.total) :
    IdentitySpells (identityComponentSpan src build start stop) (bytes ++ (spanBytes src start stop).flatMap escaped) := by
  have hrun := @iterate_identityComponentSpanStep build bytes src 1024 start stop h
  rw [identityComponentSpan, if_neg (by simp; omega)]
  dsimp only
  by_cases hshort : (spanBytes src start stop).length ≤ 1024
  · rwa [List.take_of_length_le hshort] at hrun
  · -- more bytes than the passes look at are more than an identity holds
    have hlong : ∀ l : List UInt8, 1024 ≤ l.length → ¬ (bytes ++ l.flatMap escaped).length ≤ 512 := by
      intro l hl hle
      have hmore := length_le_flatMap_escaped l
      rw [List.length_append] at hle
      omega
    have hinvalid := mt hrun.valid.mp (hlong _ (by rw [List.length_take]; omega))
    exact ⟨⟨fun hvalid => absurd hvalid hinvalid, fun hle => absurd hle (hlong _ (by omega))⟩,
      fun hvalid => absurd hvalid hinvalid⟩

/-! ## Enums -/

/-- What the identity of an enum spells. -/
def finiteTypeBytes (src : Source) (moduleStart moduleStop nameStart nameStop : Nat) : List UInt8 :=
  [109, 110, 99, 115, 58, 48, 46, 50, 58, 102, 105, 110, 105, 116, 101, 45, 116, 121, 112, 101, 58] ++
    (spanBytes src moduleStart moduleStop).flatMap escaped ++ [58, 58] ++
      (spanBytes src nameStart nameStop).flatMap escaped

/-- **The identity of an enum** is valid exactly when it has room for what it spells. -/
theorem canonicalFiniteTypeIdentity_spells {src : Source} {moduleStart moduleStop nameStart nameStop : Nat}
    (hmodule : moduleStart < moduleStop ∧ moduleStop ≤ src.total) (hname : nameStart < nameStop ∧ nameStop ≤ src.total) :
    let identity := canonicalFiniteTypeIdentity src moduleStart moduleStop nameStart nameStop
    let bytes := finiteTypeBytes src moduleStart moduleStop nameStart nameStop
    (identity.valid = true ↔ bytes.length ≤ 512) ∧
      (identity.valid = true → identity.len = bytes.length ∧ identity.contents = bytes) := by
  have hspells := (((identitySeed_spells.lead [109, 110, 99, 115, 58, 48, 46, 50, 58, 102, 105, 110, 105, 116, 101, 45,
    116, 121, 112, 101, 58]).component (Nat.le_of_lt hmodule.1) hmodule.2).byte 58).byte 58 |>.component
      (Nat.le_of_lt hname.1) hname.2
  have hvalid : ∀ b : Bool, (b && decide (moduleStop > moduleStart) && decide (nameStop > nameStart)) = b := by
    intro b
    rw [decide_eq_true hmodule.1, decide_eq_true hname.1, Bool.and_true, Bool.and_true]
  have hbytes : finiteTypeBytes src moduleStart moduleStop nameStart nameStop = [] ++ [109, 110, 99, 115, 58, 48, 46, 50,
      58, 102, 105, 110, 105, 116, 101, 45, 116, 121, 112, 101, 58] ++
      (spanBytes src moduleStart moduleStop).flatMap escaped ++ [58] ++ [58] ++
        (spanBytes src nameStart nameStop).flatMap escaped := by
    rw [finiteTypeBytes, List.nil_append, List.append_assoc _ [58] [58]]
    rfl
  dsimp only
  rw [hbytes, SemanticIdentity.contents, canonicalFiniteTypeIdentity]
  dsimp only
  rw [hvalid]
  exact ⟨hspells.valid, hspells.contents⟩

/-! ## The lists of identities -/

/-- Every pass over the declarations adds one type at most. -/
theorem length_iterate_localNominalIdentityStep_le (src : Source) (n : Nat) (st : DeclNominalWalk) :
    ((localNominalIdentityStep src)^[n] st).acc.length ≤ st.acc.length + n := by
  induction n generalizing st with
  | zero => exact Nat.le_refl _
  | succ n ih =>
      rw [Function.iterate_succ_apply]
      have hstep : (localNominalIdentityStep src st).acc.length ≤ st.acc.length + 1 := by
        obtain ⟨enums, records, header, acc⟩ := st
        cases enums with
        | cons item rest => exact Nat.le_refl _
        | nil =>
            cases records with
            | cons item rest => exact Nat.le_refl _
            | nil => exact Nat.le_succ _
      have hrest := ih (localNominalIdentityStep src st)
      omega

/-- A module declares 1024 types at most. -/
theorem length_localNominalTypeIdentities_le (src : Source) (unit : Unit) :
    (localNominalTypeIdentities src unit).length ≤ 1024 := by
  have hlength := length_iterate_localNominalIdentityStep_le src 1024
    { enums := unit.enums, records := unit.records, header := unit.header, acc := [] }
  rw [List.length_nil, Nat.zero_add] at hlength
  exact hlength

/-- The first passes are over the enums. -/
theorem iterate_localNominalIdentityStep_enums (src : Source) (enums : List EnumDecl) (records : List RecordDecl)
    (header : Parser.Header) (acc : List NominalTypeIdentity) :
    (localNominalIdentityStep src)^[enums.length]
        { enums := enums, records := records, header := header, acc := acc } =
      { enums := [], records := records, header := header
        acc := (enums.map fun item =>
          { start := item.nameStart, stop := item.nameStop
            identity := canonicalFiniteTypeIdentity src header.moduleStart header.moduleStop item.nameStart item.nameStop
            reference := false }).reverse ++ acc } := by
  induction enums generalizing acc with
  | nil => rfl
  | cons item rest ih =>
      rw [List.length_cons, Function.iterate_succ_apply]
      show (localNominalIdentityStep src)^[rest.length] (localFiniteIdentity src _ item rest) = _
      rw [localFiniteIdentity]
      dsimp only
      rw [ih, List.map_cons, List.reverse_cons, List.append_assoc]
      rfl

/-- What a module without records declares. -/
theorem localNominalTypeIdentities_enums {src : Source} {unit : Unit} (hrecords : unit.records = [])
    (hlength : unit.enums.length ≤ 1024) :
    localNominalTypeIdentities src unit = (unit.enums.map fun item =>
      { start := item.nameStart, stop := item.nameStop
        identity := canonicalFiniteTypeIdentity src unit.header.moduleStart unit.header.moduleStop item.nameStart
          item.nameStop
        reference := false }).reverse := by
  have hrun : ∀ k, ((localNominalIdentityStep src)^[k + unit.enums.length]
      { enums := unit.enums, records := [], header := unit.header, acc := [] }).acc =
        (unit.enums.map fun item =>
          { start := item.nameStart, stop := item.nameStop
            identity := canonicalFiniteTypeIdentity src unit.header.moduleStart unit.header.moduleStop item.nameStart
              item.nameStop
            reference := false }).reverse := by
    intro k
    rw [Function.iterate_add_apply, iterate_localNominalIdentityStep_enums, Function.iterate_fixed rfl, List.append_nil]
  obtain ⟨k, hk⟩ := Nat.exists_eq_add_of_le' hlength
  rw [localNominalTypeIdentities, localNominalTypeIdentitiesWithReferences, hrecords, hk, hrun]

/-- The references of a list, the last one first. -/
theorem nominalReferenceEntries_eq (types : List NominalTypeIdentity) :
    nominalReferenceEntries types = ((types.take 1024).filter NominalTypeIdentity.reference).reverse := by
  have hrun : ∀ (n : Nat) (list acc : List NominalTypeIdentity),
      (nominalReferenceEntryStep^[n] { rest := list, acc := acc }).acc =
        ((list.take n).filter NominalTypeIdentity.reference).reverse ++ acc := by
    intro n
    induction n with
    | zero => intro list acc; rfl
    | succ n ih =>
        intro list acc
        cases list with
        | nil =>
            rw [Function.iterate_fixed rfl]
            rfl
        | cons item rest =>
            rw [Function.iterate_succ_apply, List.take_succ_cons]
            show (nominalReferenceEntryStep^[n] (nominalReferenceEntryOne _ item rest)).acc = _
            rw [nominalReferenceEntryOne]
            cases hitem : item.reference with
            | true =>
                rw [if_pos rfl, ih, List.filter_cons_of_pos hitem, List.reverse_cons, List.append_assoc]
                rfl
            | false =>
                rw [if_neg Bool.false_ne_true, ih, List.filter_cons_of_neg (by rw [hitem]; exact Bool.false_ne_true)]
  rw [nominalReferenceEntries, hrun, List.append_nil]

end MncsCompiler.Decl
