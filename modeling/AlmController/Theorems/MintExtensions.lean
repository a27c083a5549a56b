import AlmController.Spec.Extensions
import Mathlib.Data.List.Nodup
import Mathlib.Data.List.TakeWhile

/-!
# Mint validation

What `validate_mint_extensions` lets through, and what it turns away.

It is sound: whatever Token-2022 finds in a mint, the program has looked at. It is not
complete: Token-2022 appends two bytes to a mint that would have the length of a
multisig, and the program reads them as the beginning of one more extension, whose
length is then out of bounds.

`validated_mint_is_sound` is about any bytes at all, and compares two walks over them, the one of
the program and the one of Token-2022 (`mintItems`). `mint_read_in_full_iff` is about mints as
Token-2022 writes them (`MintImage`), and says which of these the program reads to the end. What
the extensions mean once they are let through is left to Token-2022.
-/

namespace AlmController

open Prog Tlv

/-! ## The validation, extension by extension -/

section Validation

variable {override types : List ExtensionType} {data : List UInt8} {type : ExtensionType}
  {items : List Item}

/-- What the validation asks of one extension. -/
structure Accepted (override : List ExtensionType) (data : List UInt8) (type : ExtensionType) :
    Prop where
  allowed : type ∉ override
  valid : type ∈ VALID_MINT_EXTENSIONS
  unpaused : type = .Pausable → ∃ config paused,
    getExtensionFromBytes .Pausable PausableConfig.LEN data = .ok (some config) ∧
      config[32]? = some paused ∧ ¬ 0 < paused
  hookFree : type = .TransferHook → ∃ config,
    getExtensionFromBytes .TransferHook TransferHook.LEN data = .ok (some config) ∧
      config.drop 32 = List.replicate 32 0

/-- The checks of the source, in its order, are these four. -/
theorem validateExtension_ok :
    validateExtension override data type = .ok () ↔ Accepted override data type := by
  have hmem : ∀ {l : List ExtensionType}, (l.contains type = true) ↔ type ∈ l :=
    List.contains_iff_mem
  constructor
  · intro h
    simp only [validateExtension, except_bind_ok, check_ok, hmem, not_not] at h
    obtain ⟨_, hallowed, _, hvalid, h⟩ := h
    refine ⟨hallowed, hvalid, ?_, ?_⟩
    · rintro rfl
      simp only [if_true, except_bind_ok, okOr_ok, check_ok] at h
      obtain ⟨_, hget, config, rfl, paused, hpaused, hzero⟩ := h
      exact ⟨config, paused, hget, hpaused, hzero⟩
    · rintro rfl
      simp only [reduceCtorEq, if_false, if_true, except_bind_ok, okOr_ok, check_ok, not_not] at h
      obtain ⟨_, hget, config, rfl, hzero⟩ := h
      exact ⟨config, hget, hzero⟩
  · intro h
    simp only [validateExtension, except_bind_ok, check_ok, hmem, not_not]
    refine ⟨(), h.allowed, (), h.valid, ?_⟩
    -- no type is both, so at most one of the two looks into the value
    by_cases hpausable : type = .Pausable
    · obtain ⟨config, paused, hget, hpaused, hzero⟩ := h.unpaused hpausable
      simp only [hpausable, if_true, except_bind_ok, okOr_ok, check_ok]
      exact ⟨_, hget, config, rfl, paused, hpaused, hzero⟩
    · by_cases hhook : type = .TransferHook
      · obtain ⟨config, hget, hzero⟩ := h.hookFree hhook
        simp only [hhook, reduceCtorEq, if_false, if_true, except_bind_ok, okOr_ok, check_ok,
          not_not]
        exact ⟨_, hget, config, rfl, hzero⟩
      · rw [if_neg hpausable, if_neg hhook]
        rfl

/-- The loop accepts a list if its body accepts each of its elements. -/
theorem validateExtensions_ok : validateExtensions override data types = .ok () ↔
    ∀ type ∈ types, Accepted override data type := by
  induction types with
  | nil => simp [validateExtensions, Pure.pure, Except.pure]
  | cons type types ih =>
    rw [validateExtensions, except_bind_ok, List.forall_mem_cons, ← ih, ← validateExtension_ok]
    constructor
    · rintro ⟨_, hhead, htail⟩
      exact ⟨hhead, htail⟩
    · rintro ⟨hhead, htail⟩
      exact ⟨(), hhead, htail⟩

/-- Both walks start at the same byte. -/
theorem getExtensionFromBytes_of_reads {len : Nat} (hlen : ¬ data.length < extensionsStart)
    (h : Reads (data.drop extensionsStart) items)
    (hknown : ∀ item ∈ items, extensionType? item ≠ none) :
    getExtensionFromBytes type len data = lookUp type len items := by
  have hfuel : (data.drop extensionsStart).length ≤ data.length := by
    rw [List.length_drop]
    exact Nat.sub_le _ _
  rw [← findExtension_of_reads h hfuel hknown, getExtensionFromBytes, check, if_neg hlen]
  rfl

/-- Of a Token-2022 mint that is longer than a plain one, every extension is looked at, and nothing
    is changed. The owner is what tells such a mint from others. -/
theorem validateMintExtensions_ok {k : Pubkey} {w w' : World} {u : Unit}
    (howner : w.owner k = TOKEN_2022_PROGRAM_ID) :
    validateMintExtensions k override w = .ok (u, w') ↔ w = w' ∧ ∃ data,
      w.data k = some (.bytes data) ∧ (Mint.BASE_LEN < data.length → ∃ types,
        getAllExtensionsForMint data = .ok types ∧
          ∀ type ∈ types, Accepted override data type) := by
  have hbytes : ∀ {d : ExtData} {data}, d.bytes? = some data ↔ d = .bytes data := by
    intro d data
    cases d <;> simp [ExtData.bytes?]
  simp only [validateMintExtensions, bind_ok, read_ok, onlyIf_ok, readData_ok, hbytes, ofExcept_ok,
    World.data_eq_some, id, ← validateExtensions_ok]
  constructor
  · rintro ⟨_, _, ⟨rfl, rfl⟩, ⟨-, data, _, ⟨hkeel, hdata, rfl⟩, h⟩ | ⟨hne, -⟩⟩
    · rcases h with ⟨hlong, types, _, ⟨htypes, rfl⟩, hvalid, rfl⟩ | ⟨hshort, rfl⟩
      · exact ⟨rfl, data, ⟨hkeel, hdata⟩, fun _ => ⟨types, htypes, hvalid⟩⟩
      · exact ⟨rfl, data, ⟨hkeel, hdata⟩, fun hlong => absurd hlong hshort⟩
    · exact absurd howner hne
  · rintro ⟨rfl, data, ⟨hkeel, hdata⟩, h⟩
    refine ⟨w, w, ⟨rfl, rfl⟩, .inl ⟨howner, data, w, ⟨hkeel, hdata, rfl⟩, ?_⟩⟩
    -- a mint without extensions has nothing to look at
    by_cases hlong : Mint.BASE_LEN < data.length
    · obtain ⟨types, htypes, hvalid⟩ := h hlong
      exact .inl ⟨hlong, types, w, ⟨htypes, rfl⟩, hvalid, rfl⟩
    · exact .inr ⟨hlong, rfl⟩

end Validation

/-! ## Soundness -/

section Soundness

variable {items : List Item} {item item' : Item} {type : ExtensionType}

/-- Types have one code each. -/
theorem extensionType?_inj (h : extensionType? item = some type)
    (h' : extensionType? item' = some type) : item.type = item'.type := by
  -- the list of types, which the code is an index into, has each once
  have hnodup : ExtensionType.all.Nodup := by decide
  obtain ⟨hlt, -⟩ := List.getElem?_eq_some_iff.mp h
  exact (List.getElem?_inj hlt hnodup).mp (h.trans h'.symm)

/-- Where types do not repeat, looking up finds the item itself, and its whole value. -/
theorem lookUp_ok (honce : (items.map Item.type).Nodup) (hmem : item ∈ items) {len : Nat}
    {config : List UInt8} (h : Matches type len item)
    (hget : lookUp type len items = .ok (some config)) : config = item.value := by
  unfold lookUp at hget
  split at hget
  · cases hget
  · rename_i item' hfind
    have hmatch : Matches type len item' := by simpa using List.find?_some hfind
    have htype := extensionType?_inj hmatch.1 h.1
    obtain rfl := List.inj_on_of_nodup_map honce (List.mem_of_find?_eq_some hfind) hmem htype
    split at hget
    · cases hget
    · exact (Option.some.inj (Except.ok.inj hget)).symm

end Soundness

/-- Token-2022's own walk: from the end of the base to the first `Uninitialized` type. -/
def mintItems (data : List UInt8) : List Item := walk 0 data.length (data.drop extensionsStart)

/-- **No extension is hidden from the validation.** -/
theorem validated_mint_is_sound {override : List ExtensionType} {k : Pubkey} {w w' : World}
    {u : Unit} {data : List UInt8} (howner : w.owner k = TOKEN_2022_PROGRAM_ID)
    (hdata : w.data k = some (.bytes data)) (honce : ((mintItems data).map Item.type).Nodup)
    (h : validateMintExtensions k override w = .ok (u, w')) :
    ∀ item ∈ mintItems data, ∃ type, extensionType? item = some type ∧
      type ∈ VALID_MINT_EXTENSIONS ∧ type ∉ override ∧
      (type = .Pausable → item.length = PausableConfig.LEN → item.value[32]? = some 0) ∧
      (type = .TransferHook → item.length = TransferHook.LEN →
        item.value.drop 32 = List.replicate 32 0) := by
  obtain ⟨-, _, hdata', h⟩ := (validateMintExtensions_ok howner).mp h
  rw [hdata] at hdata'
  obtain rfl := ExtData.bytes.inj (Option.some.inj hdata')
  have hfuel : (data.drop extensionsStart).length ≤ data.length := by
    rw [List.length_drop]
    exact Nat.sub_le _ _
  by_cases hlong : Mint.BASE_LEN < data.length
  -- what the listing of the program returned was accepted, type by type
  · obtain ⟨types, htypes, haccepted⟩ := h hlong
    simp only [getAllExtensionsForMint, except_bind_ok, check_ok] at htypes
    obtain ⟨_, hlen, htypes⟩ := htypes
    -- the program listed the types of some items, one after the other
    obtain ⟨items, hreads, hmap⟩ := reads_of_extensionTypes hfuel htypes
    -- every item the listing saw was accepted
    have hitem : ∀ item ∈ items, ∃ type, extensionType? item = some type ∧
        Accepted override data type := by
      intro item hmem
      have hin := List.mem_map_of_mem (f := extensionType?) hmem
      rw [hmap] at hin
      obtain ⟨type, hmem', heq⟩ := List.mem_map.mp hin
      exact ⟨type, heq.symm, haccepted type hmem'⟩
    have hknown : ∀ item ∈ items, extensionType? item ≠ none := by
      intro item hmem
      obtain ⟨type, heq, -⟩ := hitem item hmem
      rw [heq]
      exact Option.some_ne_none type
    -- so none of them was a terminator, and Token-2022 sees the same items
    have hsame : mintItems data = items := by
      rw [mintItems, hreads.walk_eq hfuel]
      -- the walk stops at the type Uninitialized, which the validation turns away
      refine List.takeWhile_eq_self_iff.mpr fun item hmem => ?_
      refine decide_eq_true fun hzero => ?_
      obtain ⟨type, heq, haccepted⟩ := hitem item hmem
      rw [extensionType?, hzero] at heq
      obtain rfl : ExtensionType.Uninitialized = type := Option.some.inj heq
      exact absurd haccepted.valid (by decide)
    rw [hsame] at honce ⊢
    intro item hmem
    obtain ⟨type, heq, haccepted⟩ := hitem item hmem
    refine ⟨type, heq, haccepted.valid, haccepted.allowed, ?_, ?_⟩
    · rintro rfl hlength
      obtain ⟨config, paused, hget, hpaused, hzero⟩ := haccepted.unpaused rfl
      rw [getExtensionFromBytes_of_reads hlen hreads hknown] at hget
      -- what the program found under the type is this very item, since types do not repeat
      rw [← lookUp_ok honce hmem ⟨heq, hlength⟩ hget, hpaused]
      exact congrArg some (UInt8.le_antisymm (UInt8.not_lt.mp hzero) UInt8.zero_le)
    · rintro rfl hlength
      obtain ⟨config, hget, hzero⟩ := haccepted.hookFree rfl
      rw [getExtensionFromBytes_of_reads hlen hreads hknown] at hget
      rw [← lookUp_ok honce hmem ⟨heq, hlength⟩ hget]
      exact hzero
  · -- too short for any extension
    have hempty : data.drop extensionsStart = [] := by
      refine List.drop_eq_nil_of_le ((not_lt.mp hlong).trans ?_)
      decide
    intro item hmem
    rw [mintItems, hempty, Reads.nil.walk_eq (Nat.zero_le _)] at hmem
    exact absurd hmem List.not_mem_nil

/-- A mint that may be paused and may have a hook, and is not and has none. -/
def pausableHookMint : List UInt8 :=
  List.replicate 165 0 ++ [1, 26, 0, 33, 0] ++ List.replicate 33 0 ++ [14, 0, 64, 0] ++
    List.replicate 64 0

theorem validated_mint_is_sound_pausable_hook :
    getAllExtensionsForMint pausableHookMint = .ok [.Pausable, .TransferHook] ∧
    ∀ item ∈ mintItems pausableHookMint, ∃ type, extensionType? item = some type ∧
      type ∈ VALID_MINT_EXTENSIONS ∧ type ∉ [ExtensionType.PermanentDelegate] ∧
      (type = .Pausable → item.length = PausableConfig.LEN → item.value[32]? = some 0) ∧
      (type = .TransferHook → item.length = TransferHook.LEN →
        item.value.drop 32 = List.replicate 32 0) := by
  have hlisted : getAllExtensionsForMint pausableHookMint = .ok [.Pausable, .TransferHook] := by
    decide +kernel
  have hvalid : validateExtensions [.PermanentDelegate] pausableHookMint
      [.Pausable, .TransferHook] = .ok () := by
    decide +kernel
  have hrun := (validateMintExtensions_ok (k := 0)
    (w := ⟨fun _ => none, fun _ => ⟨TOKEN_2022_PROGRAM_ID, 0, .bytes pausableHookMint⟩, ⟨0, 0⟩, []⟩)
    (u := ()) rfl).mpr ⟨rfl, _, rfl, fun _ => ⟨_, hlisted, validateExtensions_ok.mp hvalid⟩⟩
  exact ⟨hlisted, validated_mint_is_sound rfl rfl (by decide +kernel) hrun⟩

/-! ## Completeness -/

/-- The code of a type. -/
def ExtensionType.code (type : ExtensionType) : Nat := ExtensionType.all.idxOf type

/-- A type is where its code says. -/
theorem ExtensionType.all_code (type : ExtensionType) :
    ExtensionType.all[type.code]? = some type := by
  cases type <;> rfl

/-- The code takes two bytes. -/
theorem ExtensionType.code_lt (type : ExtensionType) : type.code < 2 ^ 16 := by
  cases type <;> decide

/-- One extension of a mint. -/
structure MintExtension where
  type : ExtensionType
  value : List UInt8
  initialized : type ≠ .Uninitialized
  length_lt : value.length < 2 ^ 16

def MintExtension.entry (e : MintExtension) : Entry :=
  ⟨e.type.code, e.value, e.type.code_lt, e.length_lt⟩

/-- A mint as Token-2022 lays it out. -/
structure MintImage where
  base : List UInt8
  padding : List UInt8
  accountType : UInt8
  extensions : List MintExtension
  base_length : base.length = Mint.BASE_LEN
  padding_length : padding.length = EXTENSIONS_PADDING

namespace MintImage

/-- The mint before any padding against the length of a multisig. -/
def unpadded (m : MintImage) : List UInt8 :=
  m.base ++ (m.padding ++ m.accountType :: encode (m.extensions.map MintExtension.entry))

/-- The mint's data: two more bytes, of type `Uninitialized`, keep it from having the
    length of a multisig. -/
def data (m : MintImage) : List UInt8 :=
  if m.unpadded.length = MULTISIG_ACCOUNT_LENGTH then m.unpadded ++ [0, 0] else m.unpadded

/-- Built from whitelisted extensions, not paused, and without a hook. -/
def Acceptable (override : List ExtensionType) (m : MintImage) : Prop :=
  ∀ e ∈ m.extensions, e.type ∈ VALID_MINT_EXTENSIONS ∧ e.type ∉ override ∧
    (e.type = .Pausable → e.value.length = PausableConfig.LEN ∧ e.value[32]? = some 0) ∧
    (e.type = .TransferHook → e.value.length = TransferHook.LEN ∧
      e.value.drop 32 = List.replicate 32 0)

/-- The parser lists exactly the extensions of the mint, in order, and the validation
    accepts the mint when it is acceptable. -/
structure ReadInFull (m : MintImage) : Prop where
  listed : getAllExtensionsForMint m.data = .ok (m.extensions.map MintExtension.type)
  accepted : ∀ {override : List ExtensionType} {k : Pubkey} {w : World},
    w.owner k = TOKEN_2022_PROGRAM_ID → w.data k = some (.bytes m.data) → m.Acceptable override →
      validateMintExtensions k override w = .ok ((), w)

variable {m : MintImage}

/-- After the base, its padding and the account type come the extensions. -/
theorem drop_unpadded (m : MintImage) (rest : List UInt8) : (m.unpadded ++ rest).drop extensionsStart =
    encode (m.extensions.map MintExtension.entry) ++ rest := by
  have hlength : (m.base ++ (m.padding ++ [m.accountType])).length = extensionsStart := by
    rw [List.length_append, List.length_append, m.base_length, m.padding_length]
    rfl
  have hsplit : m.unpadded ++ rest = (m.base ++ (m.padding ++ [m.accountType])) ++
      (encode (m.extensions.map MintExtension.entry) ++ rest) := by
    simp [unpadded]
  rw [hsplit, ← hlength, List.drop_left]

/-- A mint with extensions is long enough for the listing to start. -/
theorem extensionsStart_le (m : MintImage) (rest : List UInt8) :
    ¬ (m.unpadded ++ rest).length < extensionsStart := by
  simp only [unpadded, List.length_append, m.base_length, m.padding_length, List.length_cons,
    extensionsStart, EXTENSION_START_OFFSET]
  omega

/-- Reading the type of an entry gives back the type it was written for. -/
theorem map_extensionType? : (m.extensions.map MintExtension.entry).map
    (fun e => extensionType? e.item) = (m.extensions.map MintExtension.type).map some := by
  rw [List.map_map, List.map_map]
  refine List.map_congr_left fun e _ => ?_
  exact e.type.all_code

/-- The items of an unpadded mint. -/
def items (m : MintImage) : List Item := (m.extensions.map MintExtension.entry).map Entry.item

/-- From the first extension on, it reads as its extensions. -/
theorem reads_unpadded : Reads (m.unpadded.drop extensionsStart) m.items := by
  have h := m.drop_unpadded []
  rw [List.append_nil, List.append_nil] at h
  rw [h]
  exact reads_encode

/-- The listing reads every extension of a mint that needs no padding. -/
theorem getAll_unpadded :
    getAllExtensionsForMint m.unpadded = .ok (m.extensions.map MintExtension.type) := by
  have hlong := m.extensionsStart_le []
  rw [List.append_nil] at hlong
  have hfuel : (m.unpadded.drop extensionsStart).length ≤ m.unpadded.length := by
    rw [List.length_drop]
    exact Nat.sub_le _ _
  rw [getAllExtensionsForMint, check, if_neg hlong]
  refine extensionTypes_of_reads reads_unpadded hfuel ?_
  rw [items, List.map_map]
  exact map_extensionType?

/-- What the two bytes of padding read as is cut short. -/
theorem getAll_padded {types : List ExtensionType} :
    getAllExtensionsForMint (m.unpadded ++ [0, 0]) ≠ .ok types := by
  intro h
  simp only [getAllExtensionsForMint, except_bind_ok, check_ok] at h
  obtain ⟨_, -, h⟩ := h
  have hfuel : ((m.unpadded ++ [0, 0]).drop extensionsStart).length ≤
      (m.unpadded ++ [0, 0]).length := by
    rw [List.length_drop]
    exact Nat.sub_le _ _
  obtain ⟨items, hreads, -⟩ := reads_of_extensionTypes hfuel h
  -- two bytes are too few for a type and a length
  rw [drop_unpadded, reads_encode_append] at hreads
  obtain ⟨_, -, hpadding⟩ := hreads
  cases hpadding

/-- Each item is what an extension was written as, -/
theorem mem_items {item : Item} : item ∈ m.items ↔ ∃ e ∈ m.extensions, e.entry.item = item := by
  simp only [items, List.map_map, List.mem_map, Function.comp_apply]

/-- and has the type of that extension. -/
theorem extensionType?_item {e : MintExtension} : extensionType? e.entry.item = some e.type :=
  e.type.all_code

/-- Looking up a type that the mint has, at the right length, finds such an extension. -/
theorem getExtension_unpadded {type : ExtensionType} {len : Nat} {e : MintExtension}
    (hmem : e ∈ m.extensions) (htype : e.type = type) (hlen : e.value.length = len) :
    ∃ e' ∈ m.extensions, e'.type = type ∧
      getExtensionFromBytes type len m.unpadded = .ok (some e'.value) := by
  have hlong := m.extensionsStart_le []
  rw [List.append_nil] at hlong
  have hknown : ∀ item ∈ m.items, extensionType? item ≠ none := by
    intro item hitem
    obtain ⟨e, -, rfl⟩ := mem_items.mp hitem
    rw [extensionType?_item]
    exact Option.some_ne_none _
  rw [getExtensionFromBytes_of_reads hlong reads_unpadded hknown, lookUp]
  have hmatch : Matches type len e.entry.item := ⟨htype ▸ extensionType?_item, hlen⟩
  -- there is such an item, so one is found, though it may be another of the same type and length
  cases hfind : m.items.find? (Matches type len) with
  | none =>
    have hnone := List.find?_eq_none.mp hfind _ (mem_items.mpr ⟨e, hmem, rfl⟩)
    exact absurd (decide_eq_true hmatch) hnone
  | some item =>
    obtain ⟨e', hmem', rfl⟩ := mem_items.mp (List.mem_of_find?_eq_some hfind)
    have hmatch' : Matches type len e'.entry.item := by simpa using List.find?_some hfind
    obtain ⟨htype', hlen'⟩ := hmatch'
    rw [extensionType?_item] at htype'
    have hwhole : ¬ e'.entry.item.value.length < len := by
      rw [← hlen']
      exact lt_irrefl _
    refine ⟨e', hmem', Option.some.inj htype', ?_⟩
    simp only [if_neg hwhole]
    rfl

/-- What is acceptable extension by extension is accepted, whichever of them a look-up finds. -/
theorem accepted_unpadded {override : List ExtensionType} (h : m.Acceptable override) :
    ∀ type ∈ m.extensions.map MintExtension.type, Accepted override m.unpadded type := by
  intro type hin
  obtain ⟨e, hmem, rfl⟩ := List.mem_map.mp hin
  obtain ⟨hvalid, hallowed, hpausable, hhook⟩ := h e hmem
  refine ⟨hallowed, hvalid, ?_, ?_⟩
  · intro htype
    obtain ⟨e', hmem', htype', hvalue⟩ := getExtension_unpadded hmem htype (hpausable htype).1
    exact ⟨_, 0, hvalue, ((h e' hmem').2.2.1 htype').2, by decide⟩
  · intro htype
    obtain ⟨e', hmem', htype', hvalue⟩ := getExtension_unpadded hmem htype (hhook htype).1
    exact ⟨_, hvalue, ((h e' hmem').2.2.2 htype').2⟩

end MintImage

/-- **The parser reads every mint but one that would be as long as a multisig.** -/
theorem mint_read_in_full_iff {m : MintImage} :
    m.ReadInFull ↔ m.unpadded.length ≠ MULTISIG_ACCOUNT_LENGTH := by
  constructor
  · intro h hlength
    have hlisted := h.listed
    rw [MintImage.data, if_pos hlength] at hlisted
    exact MintImage.getAll_padded hlisted
  · intro hlength
    have hdata : m.data = m.unpadded := if_neg hlength
    refine ⟨?_, ?_⟩
    · rw [hdata]
      exact MintImage.getAll_unpadded
    · intro override k w howner hbytes hacceptable
      rw [hdata] at hbytes
      refine (validateMintExtensions_ok howner).mpr ⟨rfl, _, hbytes, fun _ => ?_⟩
      exact ⟨_, MintImage.getAll_unpadded, MintImage.accepted_unpadded hacceptable⟩

/-- A mint with metadata of 185 bytes, which is what makes it as long as a multisig. -/
def metadataMint : MintImage where
  base := List.replicate 82 0
  padding := List.replicate 83 0
  accountType := 1
  extensions := [⟨.TokenMetadata, List.replicate 185 0, by decide,
    by rw [List.length_replicate]; decide⟩]
  base_length := rfl
  padding_length := rfl

/-- The parser panics on it. -/
theorem metadata_mint_not_read : getAllExtensionsForMint metadataMint.data = .error (.panic .index) ∧
    ¬ metadataMint.ReadInFull := by
  have hpanic : getAllExtensionsForMint metadataMint.data = .error (.panic .index) := by
    decide +kernel
  refine ⟨hpanic, fun h => ?_⟩
  rw [h.listed] at hpanic
  cases hpanic

end AlmController
