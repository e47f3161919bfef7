import CoinKeys.Proofs.Address.Invariant

/-!
# Scripts identify addresses

The two bytes that a script starts with tell its form (`StandardForm.take_two`): the opcodes of the
legacy forms are none of a witness version, and behind the opcode of version 0 stands the length of
a key hash or of a script hash. What is not in a script is the network and, for a legacy address,
the version byte. That byte is told from the kind: where a network has one byte for both kinds,
there is only the kind of a public key hash.

**Theorem (`script_eq_iff`).** Well-formed addresses of a network are equal exactly when their
scripts are, and the type of an address is that of the form of its script.
-/

namespace CoinKeys

/-! ## Forms of scripts -/

/-- Scripts of the standard types, each with the hash that it pays to. -/
inductive StandardForm : OutputScriptType → Bytes → Prop
  | p2pkh (hash : FixedBytes 20) :
    StandardForm .p2pkh ([0x76, 0xa9, 0x14] ++ hash.toList ++ [0x88, 0xac])
  | p2sh (hash : FixedBytes 20) : StandardForm .p2sh ([0xa9, 0x14] ++ hash.toList ++ [0x87])
  | p2wpkh (hash : FixedBytes 20) : StandardForm .p2wpkh ([0x00, 0x14] ++ hash.toList)
  | p2wsh (hash : FixedBytes 32) : StandardForm .p2wsh ([0x00, 0x20] ++ hash.toList)

/-- The two bytes that the scripts of a type start with, if they are the same for all. -/
def OutputScriptType.start : OutputScriptType → Bytes
  | p2pkh => [0x76, 0xa9]
  | p2sh => [0xa9, 0x14]
  | p2wpkh => [0x00, 0x14]
  | p2wsh => [0x00, 0x20]
  | witnessUnknown => []

theorem OutputScriptType.start_inj {a b : OutputScriptType} : a.start = b.start ↔ a = b := by
  cases a <;> cases b <;> simp [start]

section StandardForm

variable {kind other : OutputScriptType} {script : Bytes}

theorem StandardForm.take_two (h : StandardForm kind script) : script.take 2 = kind.start := by
  cases h <;> rfl

theorem StandardForm.ne_witnessUnknown (h : StandardForm kind script) : kind ≠ .witnessUnknown := by
  cases h <;> nofun

theorem StandardForm.iff_eq (h : StandardForm kind script) :
    StandardForm other script ↔ other ≠ .witnessUnknown ∧ kind = other := by
  refine ⟨fun hother => ⟨hother.ne_witnessUnknown, ?_⟩, fun hother => hother.2 ▸ h⟩
  rw [← OutputScriptType.start_inj, ← h.take_two, hother.take_two]

end StandardForm

/-! ## The version byte of a kind -/

theorem LegacyAddress.WellFormed.version_eq {address : LegacyAddress} (h : address.WellFormed) :
    address.version =
      if address.isP2sh then address.network.p2sh else address.network.p2pkh := by
  simp only [LegacyAddress.isP2sh_iff]
  split
  · next hkind => exact hkind.2
  · next hkind =>
    by_contra hne
    exact hkind ⟨hne, h.resolve_left hne⟩

namespace Address

/-! ## Witness programs -/

section Segwit

variable {a b : SegwitAddress} {opcode size : UInt8}

theorem IsSegwitScript.opcode_eq_zero_iff (h : IsSegwitScript a opcode size) :
    opcode = 0 ↔ a.witnessVersion = 0 := by
  rcases h.opcode_cases with ⟨hversion, hopcode⟩ | ⟨hge, -, hnumber⟩
  · exact iff_of_true hopcode hversion
  · rw [← UInt8.toNat_inj, ← UInt8.toNat_inj, UInt8.toNat_zero]
    omega

theorem IsSegwitScript.opcode_le (h : IsSegwitScript a opcode size) : opcode ≤ 0x60 := by
  rcases h.opcode_cases with ⟨-, rfl⟩ | ⟨-, hle, -⟩
  · decide
  · exact UInt8.le_iff_toNat_le.mpr hle

theorem IsSegwitScript.size_eq_ofNat_iff (h : IsSegwitScript a opcode size) {n : Nat}
    (hn : n < 256) : size = UInt8.ofNat n ↔ a.program.length = n := by
  rw [← h.size_eq, ← UInt8.toNat_inj, UInt8.toNat_ofNat_of_lt' hn]

theorem IsSegwitScript.version_eq {size' : UInt8} (ha : IsSegwitScript a opcode size)
    (hb : IsSegwitScript b opcode size') : a.witnessVersion = b.witnessVersion := by
  rcases ha.opcode_cases with ⟨hversion, hopcode⟩ | ⟨hge, -, hnumber⟩
  · rw [hversion, hb.opcode_eq_zero_iff.mp hopcode]
  · rcases hb.opcode_cases with ⟨-, rfl⟩ | ⟨-, -, hother⟩
    · exact absurd hge (by decide)
    · exact UInt8.toNat_inj.mp (by omega)

/-- Only the programs of version 0 that are hashes have scripts of a standard form. -/
theorem IsSegwitScript.of_standardForm (h : IsSegwitScript a opcode size) {kind : OutputScriptType}
    (hform : StandardForm kind (script (.segwit a))) :
    a.witnessVersion = 0 ∧ (a.program.length = 20 ∨ a.program.length = 32) := by
  have hle := h.opcode_le
  have hstart := hform.take_two
  rw [h.script_eq, List.take_succ_cons, List.take_succ_cons, List.take_zero] at hstart
  rw [← h.opcode_eq_zero_iff, ← h.size_eq_ofNat_iff (by decide), ← h.size_eq_ofNat_iff (by decide)]
  cases kind with
  | p2pkh =>
    obtain ⟨rfl, -⟩ := List.cons.inj hstart
    exact absurd hle (by decide)
  | p2sh =>
    obtain ⟨rfl, -⟩ := List.cons.inj hstart
    exact absurd hle (by decide)
  | p2wpkh =>
    obtain ⟨hopcode, hsize⟩ := List.cons.inj hstart
    exact ⟨hopcode, .inl (List.cons.inj hsize).1⟩
  | p2wsh =>
    obtain ⟨hopcode, hsize⟩ := List.cons.inj hstart
    exact ⟨hopcode, .inr (List.cons.inj hsize).1⟩
  | witnessUnknown => cases hstart

theorem scriptType_segwit_cases (a : SegwitAddress) :
    (a.witnessVersion = 0 ∧ a.program.length = 20 ∧ scriptType (.segwit a) = .p2wpkh) ∨
      (a.witnessVersion = 0 ∧ a.program.length = 32 ∧ scriptType (.segwit a) = .p2wsh) ∨
      (¬ (a.witnessVersion = 0 ∧ (a.program.length = 20 ∨ a.program.length = 32)) ∧
        scriptType (.segwit a) = .witnessUnknown) := by
  simp only [scriptType, Bool.and_eq_true, decide_eq_true_eq]
  split
  · next h => exact .inl ⟨h.1, h.2, rfl⟩
  · next hkey =>
    split
    · next h => exact .inr (.inl ⟨h.1, h.2, rfl⟩)
    · next hscript =>
      refine .inr (.inr ⟨?_, rfl⟩)
      rintro ⟨hzero, hlength | hlength⟩
      · exact hkey ⟨hzero, hlength⟩
      · exact hscript ⟨hzero, hlength⟩

theorem IsSegwitScript.standardForm_iff (h : IsSegwitScript a opcode size)
    {kind : OutputScriptType} :
    StandardForm kind (script (.segwit a)) ↔
      kind ≠ .witnessUnknown ∧ scriptType (.segwit a) = kind := by
  rcases scriptType_segwit_cases a with ⟨hzero, hlength, htype⟩ | ⟨hzero, hlength, htype⟩ |
    ⟨hother, htype⟩
  · have hform : StandardForm .p2wpkh (script (.segwit a)) := by
      rw [h.script_eq, h.opcode_eq_zero_iff.mpr hzero,
        (h.size_eq_ofNat_iff (by decide)).mpr hlength]
      exact .p2wpkh ⟨a.program, hlength⟩
    rw [htype, hform.iff_eq]
  · have hform : StandardForm .p2wsh (script (.segwit a)) := by
      rw [h.script_eq, h.opcode_eq_zero_iff.mpr hzero,
        (h.size_eq_ofNat_iff (by decide)).mpr hlength]
      exact .p2wsh ⟨a.program, hlength⟩
    rw [htype, hform.iff_eq]
  · rw [htype]
    refine iff_of_false (fun hform => hother (h.of_standardForm hform)) ?_
    rintro ⟨hknown, rfl⟩
    exact hknown rfl

end Segwit

/-! ## The form of every script -/

theorem WellFormed.standardForm_iff {a : Address} (h : a.WellFormed) {kind : OutputScriptType} :
    StandardForm kind (script a) ↔ kind ≠ .witnessUnknown ∧ scriptType a = kind := by
  cases a with
  | legacy address =>
    by_cases hkind : address.isP2sh = true
    · obtain ⟨htype, hscript⟩ := script_of_isP2sh hkind
      rw [htype, hscript, (StandardForm.p2sh address.hash).iff_eq]
    · obtain ⟨htype, hscript⟩ := script_of_not_isP2sh hkind
      rw [htype, hscript, (StandardForm.p2pkh address.hash).iff_eq]
  | segwit address =>
    obtain ⟨opcode, size, hform⟩ := exists_isSegwitScript h.version_le h.length_le
    exact hform.standardForm_iff

theorem WellFormed.scriptType_eq_witnessUnknown_iff {a : Address} (h : a.WellFormed) :
    scriptType a = .witnessUnknown ↔ ∀ kind, ¬ StandardForm kind (script a) := by
  simp only [h.standardForm_iff, not_and]
  refine ⟨fun htype kind hknown heq => hknown (heq.symm.trans htype), fun hnone => ?_⟩
  by_contra hknown
  exact hnone _ hknown rfl

theorem WellFormed.scriptType_eq_of_script_eq {a b : Address} (ha : a.WellFormed)
    (hb : b.WellFormed) (h : script a = script b) : scriptType a = scriptType b := by
  by_cases hknown : scriptType a = .witnessUnknown
  · rw [hknown, eq_comm, hb.scriptType_eq_witnessUnknown_iff, ← h,
      ← ha.scriptType_eq_witnessUnknown_iff, hknown]
  · have hform := ha.standardForm_iff.mpr ⟨hknown, rfl⟩
    rw [h, hb.standardForm_iff] at hform
    exact hform.2.symm

/-! ## Addresses with one script -/

theorem scriptType_legacy_ne_segwit (a : LegacyAddress) (b : SegwitAddress) :
    scriptType (.legacy a) ≠ scriptType (.segwit b) := by
  have hlegacy : scriptType (.legacy a) = if a.isP2sh then .p2sh else .p2pkh := rfl
  rw [hlegacy]
  rcases scriptType_segwit_cases b with ⟨-, -, htype⟩ | ⟨-, -, htype⟩ | ⟨-, htype⟩ <;>
    rw [htype] <;> split <;> nofun

theorem scriptType_eq_p2sh_iff {a : LegacyAddress} :
    scriptType (.legacy a) = .p2sh ↔ a.isP2sh = true := by
  rw [scriptType]
  split
  · next hkind => exact iff_of_true rfl hkind
  · next hkind => exact iff_of_false (by simp) hkind

theorem script_legacy_inj {a b : LegacyAddress} (ha : a.WellFormed) (hb : b.WellFormed)
    (hnetwork : a.network = b.network) (h : script (.legacy a) = script (.legacy b)) : a = b := by
  have hkind : a.isP2sh = b.isP2sh := by
    rw [Bool.eq_iff_iff, ← scriptType_eq_p2sh_iff, ← scriptType_eq_p2sh_iff,
      WellFormed.scriptType_eq_of_script_eq (a := .legacy a) (b := .legacy b) ha hb h]
  have hversion : a.version = b.version := by
    rw [ha.version_eq, hb.version_eq, hkind, hnetwork]
  have hhash : a.hash.toList = b.hash.toList := by
    by_cases hp2sh : a.isP2sh = true
    · rw [(script_of_isP2sh hp2sh).2, (script_of_isP2sh (hkind ▸ hp2sh)).2] at h
      simpa using h
    · rw [(script_of_not_isP2sh hp2sh).2, (script_of_not_isP2sh (hkind ▸ hp2sh)).2] at h
      simpa using h
  obtain ⟨network, version, hash⟩ := a
  obtain ⟨network', version', hash'⟩ := b
  exact (LegacyAddress.mk.injEq ..).mpr ⟨hnetwork, hversion, FixedBytes.ext hhash⟩

theorem script_segwit_inj {a b : SegwitAddress} (ha : a.WellFormed) (hb : b.WellFormed)
    (hnetwork : a.network = b.network) (h : script (.segwit a) = script (.segwit b)) : a = b := by
  obtain ⟨opcode, size, hscript⟩ := exists_isSegwitScript ha.version_le ha.length_le
  obtain ⟨opcode', size', hscript'⟩ := exists_isSegwitScript hb.version_le hb.length_le
  rw [hscript.script_eq, hscript'.script_eq] at h
  obtain ⟨rfl, htail⟩ := List.cons.inj h
  obtain ⟨-, hprogram⟩ := List.cons.inj htail
  have hversion := hscript.version_eq hscript'
  obtain ⟨network, version, program⟩ := a
  obtain ⟨network', version', program'⟩ := b
  exact (SegwitAddress.mk.injEq ..).mpr ⟨hnetwork, hversion, hprogram⟩

theorem WellFormed.script_inj {a b : Address} (ha : a.WellFormed) (hb : b.WellFormed)
    (hnetwork : a.network = b.network) : script a = script b ↔ a = b := by
  refine ⟨fun h => ?_, fun h => h ▸ rfl⟩
  have htype := ha.scriptType_eq_of_script_eq hb h
  cases a with
  | legacy a =>
    cases b with
    | legacy b => exact congrArg legacy (script_legacy_inj ha hb hnetwork h)
    | segwit b => exact absurd htype (scriptType_legacy_ne_segwit a b)
  | segwit a =>
    cases b with
    | legacy b => exact absurd htype.symm (scriptType_legacy_ne_segwit b a)
    | segwit b => exact congrArg segwit (script_segwit_inj ha hb hnetwork h)

theorem beq_iff_eq_of_network_eq {a b : Address} (h : a.network = b.network) :
    (a == b) = true ↔ a = b := by
  cases a with
  | legacy a =>
    cases b with
    | legacy b =>
      obtain ⟨network, version, hash⟩ := a
      obtain ⟨network', version', hash'⟩ := b
      obtain rfl : network = network' := h
      -- Networks are compared by their ids alone, but here they are one network.
      have hself : (network == network) = true := beq_self_eq_true network.id
      show (network == network && (version == version' && hash == hash')) = true ↔ _
      simp [hself]
    | segwit b => exact iff_of_false nofun nofun
  | segwit a =>
    cases b with
    | legacy b => exact iff_of_false nofun nofun
    | segwit b =>
      obtain ⟨network, version, program⟩ := a
      obtain ⟨network', version', program'⟩ := b
      obtain rfl : network = network' := h
      have hself : (network == network) = true := beq_self_eq_true network.id
      show (network == network && (version == version' && program == program')) = true ↔ _
      simp [hself]

/-- **Scripts identify addresses.** On one network, equal scripts are those of equal addresses. The
type of an address is the standard type whose form its script has, if there is one. -/
theorem script_eq_iff (a b : Address) (ha : a.WellFormed) (hb : b.WellFormed) :
    (a.network = b.network →
      (script a = script b ↔ a = b) ∧ (script a = script b ↔ (a == b) = true)) ∧
    (script a = script b → scriptType a = scriptType b) ∧
    (∀ kind, kind ≠ .witnessUnknown → (scriptType a = kind ↔ StandardForm kind (script a))) ∧
    (scriptType a = .witnessUnknown ↔ ∀ kind, ¬ StandardForm kind (script a)) := by
  refine ⟨fun hnetwork => ⟨ha.script_inj hb hnetwork, ?_⟩, ha.scriptType_eq_of_script_eq hb,
    fun kind hknown => ?_, ha.scriptType_eq_witnessUnknown_iff⟩
  · rw [beq_iff_eq_of_network_eq hnetwork, ha.script_inj hb hnetwork]
  · rw [ha.standardForm_iff, and_iff_right hknown]

/-- A key hash in a legacy address and in a witness program, on the production network. -/
theorem script_eq_iff_key_hash :
    WellFormed (.segwit ⟨.mainnet, 0, List.replicate 20 7⟩) ∧
    WellFormed (.legacy ⟨.mainnet, 65, ⟨List.replicate 20 7, rfl⟩⟩) ∧
    script (.segwit ⟨.mainnet, 0, List.replicate 20 7⟩) ≠
      script (.legacy ⟨.mainnet, 65, ⟨List.replicate 20 7, rfl⟩⟩) ∧
    StandardForm .p2wpkh (script (.segwit ⟨.mainnet, 0, List.replicate 20 7⟩)) := by
  have hsegwit : WellFormed (.segwit ⟨.mainnet, 0, List.replicate 20 7⟩) :=
    SegwitAddress.wellFormed_iff_make.mpr (by cbv)
  have hlegacy : WellFormed (.legacy ⟨.mainnet, 65, ⟨List.replicate 20 7, rfl⟩⟩) := .inl rfl
  obtain ⟨hscripts, -, hforms, -⟩ := script_eq_iff _ _ hsegwit hlegacy
  obtain ⟨hequal, -⟩ := hscripts rfl
  exact ⟨hsegwit, hlegacy, hequal.not.mpr (by simp), (hforms .p2wpkh (by simp)).mp rfl⟩

end Address

end CoinKeys
