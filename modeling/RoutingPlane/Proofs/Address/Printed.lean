import RoutingPlane.Address.Printer
import RoutingPlane.Proofs.Address.Numerals
import RoutingPlane.Proofs.Text.Split

/-!
Reading undoes printing: an address is read from its own text, whatever its version
and its zone are, and so are a network and an interface address with their lengths.
The run of zeros that the text of an address of version 6 leaves out is put back
where it was, because it is the only one that is left out.
-/

namespace RoutingPlane

open RoutingPlane.Text

namespace Address

section Traversal

variable {α β : Type} {step : α → Option β} {items : List α}

theorem mapM_map_eq_some {print : β → α} {values : List β}
    (readsBack : ∀ value ∈ values, step (print value) = some value) :
    (values.map print).mapM step = some values := by
  induction values with
  | nil =>
      rfl
  | cons value rest inductionHypothesis =>
      have readRest := inductionHypothesis fun other isOther =>
        readsBack other (List.mem_cons_of_mem _ isOther)
      simp [readsBack value List.mem_cons_self, readRest]

theorem mapM_eq_none {item : α} (isItem : item ∈ items) (fails : step item = none) :
    items.mapM step = none := by
  induction items with
  | nil =>
      cases isItem
  | cons first rest inductionHypothesis =>
      rw [List.mapM_cons]
      rcases List.mem_cons.1 isItem with rfl | inRest
      · rw [fails]
        rfl
      · rw [inductionHypothesis inRest]
        cases step first <;> rfl

end Traversal

/-! ## Version 4 -/

theorem lt_of_mem_bytes {bits : BitVec 32} {byte : Nat} (isByte : byte ∈ bytes bits) :
    byte < 256 := by
  obtain ⟨shift, _, rfl⟩ := List.mem_map.1 isByte
  exact Nat.mod_lt _ (by decide)

theorem not_mem_toDigits_ten {n : Nat} {c : Char} (noDigit : c.isDigit = false) :
    c ∉ Nat.toDigits 10 n := by
  intro isIn
  rw [Nat.isDigit_of_mem_toDigits (by decide) (by decide) isIn] at noDigit
  cases noDigit

/-- The bytes of a number of 32 bits make it up. -/
theorem ofNat_bytes (bits : BitVec 32) :
    ∃ a b c d, bytes bits = [a, b, c, d] ∧
      BitVec.ofNat 32 (((a * 256 + b) * 256 + c) * 256 + d) = bits := by
  refine ⟨_, _, _, _, rfl, ?_⟩
  have small := bits.isLt
  have whole : (((bits.toNat >>> 24 % 256) * 256 + bits.toNat >>> 16 % 256) * 256 +
      bits.toNat >>> 8 % 256) * 256 + bits.toNat >>> 0 % 256 = bits.toNat := by
    omega
  rw [whole, BitVec.ofNat_toNat, BitVec.setWidth_eq]

/-- Four numbers with points between them are read as the bits whose bytes they are. -/
theorem readV4?_join (bits : BitVec 32) :
    readV4? (join '.' ((bytes bits).map (Nat.toDigits 10))) = some bits := by
  have printed : ((bytes bits).map (Nat.toDigits 10)) ≠ [] := by simp [bytes]
  have parted : split '.' (join '.' ((bytes bits).map (Nat.toDigits 10))) =
      (bytes bits).map (Nat.toDigits 10) := by
    apply split_join printed
    intro part isPart
    obtain ⟨byte, _, rfl⟩ := List.mem_map.1 isPart
    exact not_mem_toDigits_ten rfl
  have read : ((bytes bits).map (Nat.toDigits 10)).mapM readByte? = some (bytes bits) :=
    mapM_map_eq_some fun byte isByte => readByte?_toDigits (lt_of_mem_bytes isByte)
  obtain ⟨a, b, c, d, areBytes, makeUp⟩ := ofNat_bytes bits
  rw [readV4?, parted, read, areBytes]
  exact congrArg some makeUp

/-- A text with anything but digits and dots is no address of version 4. -/
theorem readV4?_eq_none {text : List Char} {c : Char} (isIn : c ∈ text) (notDot : c ≠ '.')
    (noDigit : c.isDigit = false) : readV4? text = none := by
  obtain ⟨part, isPart, inPart⟩ := mem_split_of_mem isIn notDot
  have noByte : readByte? part = none := by
    have notDecimal : isDecimal part = false := by
      rw [isDecimal, Bool.and_eq_false_iff]
      exact .inr (List.all_eq_false.2 ⟨c, inPart, by simp [noDigit]⟩)
    simp [readByte?, notDecimal]
  rw [readV4?, mapM_eq_none isPart noByte]

/-! ## Version 6 -/

theorem lt_of_mem_groups {bits : BitVec 128} {part : Nat} (isGroup : part ∈ groups bits) :
    part < 65536 := by
  obtain ⟨shift, _, rfl⟩ := List.mem_map.1 isGroup
  exact Nat.mod_lt _ (by decide)

/-- The groups of a number of 128 bits make it up. -/
theorem bitsOfGroups_groups (bits : BitVec 128) : bitsOfGroups (groups bits) = bits := by
  have small := bits.isLt
  have leadingGroup : bits.toNat >>> 112 % 65536 = bits.toNat >>> 112 := by omega
  have append := shiftRight_append_group bits.toNat
  have whole : (groups bits).foldl (fun sum value => 65536 * sum + value) 0 = bits.toNat := by
    simp only [groups, List.map_cons, List.map_nil, List.foldl_cons, List.foldl_nil,
      Nat.mul_zero, Nat.zero_add, leadingGroup]
    rw [append 96, append 80, append 64, append 48, append 32, append 16, append 0,
      Nat.shiftRight_zero]
  rw [bitsOfGroups, whole, BitVec.ofNat_toNat, BitVec.setWidth_eq]

theorem not_mem_groupText {part : Nat} {c : Char} (noDigit : hexValue? c = none) :
    c ∉ groupText part :=
  not_mem_toDigits noDigit

abbrev joined (values : List Nat) : List Char :=
  join ':' (values.map groupText)

theorem readParts?_map_groupText {mayEndInV4 : Bool} {values : List Nat}
    (small : ∀ value ∈ values, value < 65536) :
    readParts? mayEndInV4 (values.map groupText) = some values := by
  induction values with
  | nil =>
      rfl
  | cons value rest inductionHypothesis =>
      have readFirst : readGroup? (groupText value) = some value :=
        readGroup?_toDigits (small value List.mem_cons_self)
      have noDot : '.' ∉ groupText value := not_mem_groupText rfl
      cases rest with
      | nil => simp [readParts?, noDot, readFirst]
      | cons next others =>
          have readRest := inductionHypothesis fun other isOther =>
            small other (List.mem_cons_of_mem _ isOther)
          rw [List.map_cons] at readRest
          simp [readParts?, readFirst, readRest]

/-- Groups are read from their text, and none from the empty text. -/
theorem readGroups?_joined {mayEndInV4 : Bool} {values : List Nat}
    (small : ∀ value ∈ values, value < 65536) :
    readGroups? mayEndInV4 (joined values) = some values := by
  cases values with
  | nil => rfl
  | cons value rest =>
      have parted : split ':' (joined (value :: rest)) = (value :: rest).map groupText := by
        apply split_join (by simp)
        intro part isPart
        obtain ⟨value, _, rfl⟩ := List.mem_map.1 isPart
        exact not_mem_groupText rfl
      have notEmpty : (joined (value :: rest)).isEmpty = false := by
        have digits : groupText value ≠ [] := Nat.toDigits_ne_nil
        cases rest <;> simp [joined, join, digits]
      rw [readGroups?, notEmpty, parted]
      exact readParts?_map_groupText small

/-- Zeros that a text leaves out stand in front of what is left. -/
theorem replicate_zeroRun_append (parts : List Nat) :
    List.replicate (zeroRun parts) 0 ++ parts.drop (zeroRun parts) = parts := by
  induction parts with
  | nil =>
      rfl
  | cons part rest inductionHypothesis =>
      by_cases isZero : part = 0
      · subst isZero
        have longer : zeroRun (0 :: rest) = zeroRun rest + 1 := by simp [zeroRun]
        rw [longer, List.replicate_succ, List.cons_append, List.drop_succ_cons,
          inductionHypothesis]
      · have noZero : zeroRun (part :: rest) = 0 := by simp [zeroRun, isZero]
        rw [noZero]
        rfl

/-- The longest run of zeros of a list of groups lies where it is said to lie. -/
theorem exists_eq_longestZeroRun (place : Nat) (parts : List Nat) :
    ∃ front back, parts = front ++ List.replicate (longestZeroRun place parts).2 0 ++ back ∧
      (longestZeroRun place parts).1 = place + front.length := by
  induction parts generalizing place with
  | nil =>
      exact ⟨[], [], rfl, rfl⟩
  | cons part rest inductionHypothesis =>
      rw [longestZeroRun]
      split
      · exact ⟨[], (part :: rest).drop (zeroRun (part :: rest)),
          (replicate_zeroRun_append _).symm, rfl⟩
      · obtain ⟨front, back, isRest, isPlace⟩ := inductionHypothesis (place + 1)
        refine ⟨part :: front, back, ?_, ?_⟩
        · rw [List.cons_append, List.cons_append, ← isRest]
        · rw [isPlace, List.length_cons]
          omega

/-- The text of groups writes all of them out, or leaves one run of zeros out. -/
theorem groupsText_eq (parts : List Nat) :
    groupsText parts = joined parts ∨
      ∃ front zeros back, 2 ≤ zeros ∧ parts = front ++ List.replicate zeros 0 ++ back ∧
        groupsText parts = joined front ++ ':' :: ':' :: joined back := by
  obtain ⟨front, back, isWhole, isPlace⟩ := exists_eq_longestZeroRun 0 parts
  rw [groupsText]
  split
  · exact .inl rfl
  next long =>
    refine .inr ⟨front, (longestZeroRun 0 parts).2, back, Nat.le_of_not_lt long, isWhole, ?_⟩
    generalize longestZeroRun 0 parts = run at isWhole isPlace
    subst isWhole
    have inFront : (front ++ List.replicate run.2 0 ++ back).take run.1 = front := by
      simp [isPlace, List.append_assoc]
    have afterRun : (front ++ List.replicate run.2 0 ++ back).drop (run.1 + run.2) = back := by
      have length : run.1 + run.2 = (front ++ List.replicate run.2 0).length := by
        simp [isPlace]
      rw [length, List.drop_left]
    simp only [inFront, afterRun]

/-- Eight groups are read from their text. At least two are left out of it where a double separator
stands, and as many zeros are put back as are missing. -/
theorem readV6?_groupsText (bits : BitVec 128) :
    readV6? (groupsText (groups bits)) = some bits := by
  have eight : (groups bits).length = 8 := rfl
  have small := fun part (isGroup : part ∈ groups bits) => lt_of_mem_groups isGroup
  have notEmpty : ∀ values : List Nat, ∀ part ∈ values.map groupText, part ≠ [] := by
    intro values part isPart
    obtain ⟨value, _, rfl⟩ := List.mem_map.1 isPart
    exact Nat.toDigits_ne_nil
  have noColon : ∀ values : List Nat, ∀ part ∈ values.map groupText, ':' ∉ part := by
    intro values part isPart
    obtain ⟨value, _, rfl⟩ := List.mem_map.1 isPart
    exact not_mem_groupText rfl
  rcases groupsText_eq (groups bits) with
    writtenOut | ⟨front, zeros, back, several, isWhole, shortened⟩
  · rw [readV6?, writtenOut, cutDouble?_join (notEmpty _) (noColon _)]
    simp [readGroups?_joined small, eight, bitsOfGroups_groups]
  · have smallFront : ∀ value ∈ front, value < 65536 := fun value isFront =>
      small value (by simp [isWhole, isFront])
    have smallBack : ∀ value ∈ back, value < 65536 := fun value isBack =>
      small value (by simp [isWhole, isBack])
    have lengths : front.length + zeros + back.length = 8 := by
      rw [← eight, isWhole, List.length_append, List.length_append, List.length_replicate]
    have fewer : front.length + back.length < 8 := by omega
    have missing : 8 - front.length - back.length = zeros := by omega
    have filled : front ++ (List.replicate zeros 0 ++ back) = groups bits := by
      rw [isWhole, List.append_assoc]
    rw [readV6?, shortened, cutDouble?_join_double _ (notEmpty _) (noColon _)]
    simp [readGroups?_joined smallFront, readGroups?_joined smallBack, fewer, missing, filled,
      bitsOfGroups_groups]

theorem not_mem_groupsText {parts : List Nat} {c : Char} (noColon : c ≠ ':')
    (noDigit : hexValue? c = none) : c ∉ groupsText parts := by
  have notJoined : ∀ values, c ∉ joined values := by
    intro values isIn
    rcases mem_join isIn with isColon | ⟨part, isPart, inPart⟩
    · exact noColon isColon
    · obtain ⟨value, _, rfl⟩ := List.mem_map.1 isPart
      exact not_mem_groupText noDigit inPart
  rcases groupsText_eq parts with writtenOut | ⟨front, _, back, _, _, shortened⟩
  · rw [writtenOut]
    exact notJoined parts
  · simp [shortened, noColon, notJoined]

theorem colon_mem_groupsText (bits : BitVec 128) : ':' ∈ groupsText (groups bits) := by
  rcases groupsText_eq (groups bits) with writtenOut | ⟨_, _, _, _, _, shortened⟩
  · rw [writtenOut]
    apply separator_mem_join
    simp [groups]
  · simp [shortened]

/-! ## Addresses of both versions -/

theorem slash_not_mem_zone (zone : Zone) : '/' ∉ zone.name.toList := by
  have valid := zone.valid
  simp only [isZoneName, Bool.and_eq_true, Bool.not_eq_true', List.contains_eq_mem,
    decide_eq_false_iff_not] at valid
  exact valid.2

theorem slash_not_mem_chars (address : Address) : '/' ∉ address.chars := by
  have notInGroups : ∀ bits, '/' ∉ groupsText (groups bits) := fun _ =>
    not_mem_groupsText (by decide) (by decide)
  match address with
  | v4 bits =>
      intro isIn
      rcases mem_join isIn with isDot | ⟨part, isPart, inPart⟩
      · exact absurd isDot (by decide)
      · obtain ⟨byte, _, rfl⟩ := List.mem_map.1 isPart
        exact not_mem_toDigits_ten rfl inPart
  | v6 bits none => simpa only [chars] using notInGroups bits
  | v6 bits (some zone) => simp [chars, notInGroups bits, slash_not_mem_zone zone]

theorem colon_mem_chars (bits : BitVec 128) (zone : Option Zone) :
    ':' ∈ (v6 bits zone).chars := by
  cases zone with
  | none => exact colon_mem_groupsText bits
  | some zone => exact List.mem_append_left _ (colon_mem_groupsText bits)

theorem readZonedV6?_chars (bits : BitVec 128) (zone : Option Zone) :
    readZonedV6? (v6 bits zone).chars = some (v6 bits zone) := by
  have noMark : '%' ∉ groupsText (groups bits) := not_mem_groupsText (by decide) (by decide)
  cases zone with
  | none => simp [readZonedV6?, chars, cut?_of_not_mem noMark, readV6?_groupsText]
  | some zone =>
      have readZone : readZone? zone.name.toList = some zone := by
        simp [readZone?, zone.valid]
      simp [readZonedV6?, chars, cut?_append_cons _ noMark, readZone, readV6?_groupsText]

/-- An address is read from its text. Version 4 is tried first, and a colon keeps a text of version
6 from being read as one. -/
theorem ofText?_chars (address : Address) : ofText? address.chars = some address := by
  have noSlash : address.chars.contains '/' = false := by
    simpa using slash_not_mem_chars address
  rw [ofText?, noSlash]
  cases address with
  | v4 bits =>
      have read : readV4? (v4 bits).chars = some bits := readV4?_join bits
      simp [read]
  | v6 bits zone =>
      have noV4 : readV4? (v6 bits zone).chars = none :=
        readV4?_eq_none (colon_mem_chars bits zone) (by decide) rfl
      simp [noV4, readZonedV6?_chars]

end Address

/-! ## Addresses with a length -/

/-- An interface address is read from its text. -/
theorem InterfaceAddress.ofText?_text (interface : InterfaceAddress) :
    InterfaceAddress.ofText? interface.text.toList = some interface := by
  obtain ⟨address, length, length_le⟩ := interface
  have noSlash : '/' ∉ Nat.toDigits 10 length := Address.not_mem_toDigits_ten rfl
  have parted : split '/' (address.chars ++ '/' :: Nat.toDigits 10 length) =
      [address.chars, Nat.toDigits 10 length] := by
    rw [split_append_cons _ (Address.slash_not_mem_chars address), split_of_not_mem noSlash]
  have printed : (InterfaceAddress.text ⟨address, length, length_le⟩).toList =
      address.chars ++ '/' :: Nat.toDigits 10 length := by
    simp [InterfaceAddress.text, withLengthText]
  have fits : length ≤ address.version.width := length_le
  rw [printed, InterfaceAddress.ofText?, parted]
  simp [Address.ofText?_chars, Address.readLength?_toDigits fits, InterfaceAddress.ofParts?,
    length_le]

theorem InterfaceAddress.ofValue?_networkText (network : Network) :
    InterfaceAddress.ofValue? (.text network.text) =
      .ok (some ⟨network.base, network.length, network.length_le⟩) :=
  congrArg Except.ok
    (InterfaceAddress.ofText?_text ⟨network.base, network.length, network.length_le⟩)

/-- The network around its own address is the network itself: nothing is left to clear. -/
theorem InterfaceAddress.network_base (network : Network) :
    InterfaceAddress.network ⟨network.base, network.length, network.length_le⟩ = network := by
  simp [InterfaceAddress.network, Network.containing, network.aligned]

theorem InterfaceAddress.readAs_networkText (use : AddressUse) (network : Network) :
    InterfaceAddress.readAs use (.text network.text) =
      .ok ⟨network.base, network.length, network.length_le⟩ := by
  rw [InterfaceAddress.readAs, InterfaceAddress.ofValue?_networkText]
  rfl

/-- A network is read from its text. -/
theorem Network.read_text (network : Network) :
    Network.read (.text network.text) = .ok network := by
  rw [Network.read, InterfaceAddress.readAs_networkText]
  exact congrArg Except.ok (InterfaceAddress.network_base network)

end RoutingPlane
