import ReistOs.ConfigGrammar

namespace ReistOs

open ConfigLine

/-- What every document is that a caller can hold, whether parsed or set. -/
structure ConfigValid (document : ConfigDocument) : Prop where
  schema : validValue document.schema document.schema.length reistConfigSchemaCapacity = true
  entries : ∀ e ∈ document.entries, (ConfigLine.pair e).WellFormed
  nodup : (document.entries.map (·.key)).Nodup
  bounded : document.entries.length ≤ reistConfigEntryCapacity

def setAll (document : ConfigDocument) : List ConfigEntry → Option ConfigDocument
  | [] => some document
  | e :: sets =>
    let (result, document') := reistConfigSet document (some e.key) (some e.value)
    if result = reistConfigOk then setAll document' sets else none

def lookup (entries : List ConfigEntry) (key : List UInt8) : ConfigString :=
  (entries.find? (·.key == key)).map (·.value)

variable {e : ConfigEntry} {document : ConfigDocument} {key value k out : List UInt8}
  {entries : List ConfigEntry} {capacity : Nat}

theorem mem_filterMap_pair {lines : List (ConfigLine × Bool)}
    (hw : ∀ line ∈ lines, line.1.WellFormed) (h : e ∈ lines.filterMap pair?) :
    (pair e).WellFormed := by
  obtain ⟨⟨line, crlf⟩, hline, hpair⟩ := List.mem_filterMap.mp h
  cases line with
  | comment text => cases hpair
  | blank => cases hpair
  | pair entry =>
    cases hpair
    exact hw _ hline

theorem reistConfigParse_valid {data expected : List UInt8}
    (h : reistConfigParse (some data) (some expected) = (reistConfigOk, document)) :
    ConfigValid document ∧ schemaKey ∉ document.entries.map (·.key) := by
  obtain ⟨-, hvalid, lines, hw, -, hpairs, hschema, hentries⟩ :=
    (reistConfigParse_iff data expected document).mp h
  have hmem : ∀ e ∈ document.entries, (pair e).WellFormed := by
    intro e he
    apply mem_filterMap_pair hw
    rw [hpairs]
    exact List.mem_cons_of_mem _ he
  exact ⟨⟨hschema ▸ hvalid, hmem, hentries.nodup, hentries.bounded⟩, hentries.reserved⟩

theorem reistConfigParse_fails (data expected : ConfigString)
    (h : (reistConfigParse data expected).1 ≠ reistConfigOk) :
    (reistConfigParse data expected).2 = emptyConfig := by
  cases data with
  | none => rfl
  | some data =>
    cases expected with
    | none => rfl
    | some expected =>
      rcases reistConfigParse_cases data expected with ⟨e, -, he⟩ | ⟨-, -, -, s, -, -, -, hs⟩
      · rw [he]
      · rw [hs] at h
        exact absurd rfl h

/-! Setting an entry. -/

def putEntry (key value : List UInt8) (entries : List ConfigEntry) : List ConfigEntry :=
  if key ∈ entries.map (·.key) then
    entries.map fun e => if e.key = key then { e with value := value } else e
  else entries ++ [⟨key, value⟩]

theorem map_replaced_of_fresh (value : List UInt8) (h : key ∉ entries.map (·.key)) :
    (entries.map fun e => if e.key = key then { e with value := value } else e) = entries := by
  have hsame : ∀ e ∈ entries, (if e.key = key then { e with value := value } else e) = e := by
    intro e he
    have hne : e.key ≠ key := fun hk => h (hk ▸ List.mem_map.mpr ⟨e, he, rfl⟩)
    exact if_neg hne
  rw [List.map_congr_left hsame, List.map_id']

theorem textEqual_key {left : List UInt8} (h : key.length < reistConfigKeyCapacity) :
    textEqual left key reistConfigKeyCapacity = true ↔ left = key := by
  constructor
  · intro he
    simp only [textEqual, Bool.and_eq_true] at he
    simpa using he.1
  · rintro rfl
    simp [textEqual, h]

theorem setEntry_eq (value : List UInt8) (hkey : key.length < reistConfigKeyCapacity)
    (hn : (entries.map (·.key)).Nodup) :
    setEntry key value entries =
      if key ∈ entries.map (·.key) then
        some (entries.map fun e => if e.key = key then { e with value := value } else e)
      else none := by
  induction entries with
  | nil => rfl
  | cons e entries ih =>
    obtain ⟨hhead, htail⟩ := List.nodup_cons.mp hn
    rw [setEntry, ih htail]
    by_cases hm : key ∈ entries.map (·.key)
    · have hne : e.key ≠ key := by
        rintro rfl
        exact hhead hm
      simp only [if_pos hm, List.map_cons, if_neg hne]
      rw [if_pos (List.mem_cons_of_mem _ hm)]
    · simp only [if_neg hm]
      by_cases he : e.key = key
      · rw [if_pos ((textEqual_key hkey).mpr he), List.map_cons,
          if_pos (he ▸ List.mem_cons_self), List.map_cons, if_pos he,
          map_replaced_of_fresh value hm]
      · have hnot : key ∉ (e :: entries).map (·.key) := by
          rw [List.map_cons]
          intro hmem
          rcases List.mem_cons.mp hmem with hk | hk
          · exact he hk.symm
          · exact hm hk
        have htext : ¬ textEqual e.key key reistConfigKeyCapacity = true := fun ht =>
          he ((textEqual_key hkey).mp ht)
        rw [if_neg htext, if_neg hnot]

theorem keys_replaced (key value : List UInt8) (entries : List ConfigEntry) :
    (entries.map fun e => if e.key = key then { e with value := value } else e).map (·.key) =
      entries.map (·.key) := by
  rw [List.map_map]
  apply List.map_congr_left
  intro e _
  by_cases he : e.key = key <;> simp [he]

theorem mem_keys_putEntry :
    k ∈ (putEntry key value entries).map (·.key) ↔ k ∈ entries.map (·.key) ∨ k = key := by
  unfold putEntry
  split
  next hm =>
    rw [keys_replaced]
    constructor
    · exact .inl
    · rintro (h | rfl)
      · exact h
      · exact hm
  next =>
    rw [List.map_append, List.mem_append, List.map_singleton, List.mem_singleton]

theorem lookup_cons (e : ConfigEntry) (entries : List ConfigEntry) (k : List UInt8) :
    lookup (e :: entries) k = if e.key = k then some e.value else lookup entries k := by
  by_cases he : e.key = k <;> simp [lookup, he]

theorem lookup_append (entries : List ConfigEntry) (e : ConfigEntry)
    (h : k ∉ entries.map (·.key) ∨ e.key ≠ k) :
    lookup (entries ++ [e]) k = if e.key = k then some e.value else lookup entries k := by
  induction entries with
  | nil => exact lookup_cons e [] k
  | cons a entries ih =>
    rw [List.cons_append, lookup_cons, lookup_cons]
    by_cases ha : a.key = k
    · have hne : e.key ≠ k := by
        rcases h with h | h
        · exact absurd (ha ▸ List.mem_cons_self) h
        · exact h
      rw [if_pos ha, if_neg hne, if_pos ha]
    · have hrest : k ∉ entries.map (·.key) ∨ e.key ≠ k := by
        rcases h with h | h
        · exact .inl fun hm => h (List.mem_cons_of_mem _ hm)
        · exact .inr h
      rw [if_neg ha, ih hrest, if_neg ha]

theorem lookup_replaced (key value k : List UInt8) (hm : key ∈ entries.map (·.key)) :
    lookup (entries.map fun e => if e.key = key then { e with value := value } else e) k =
      if key = k then some value else lookup entries k := by
  have hother : ∀ es : List ConfigEntry, key ≠ k →
      lookup (es.map fun e => if e.key = key then { e with value := value } else e) k =
        lookup es k := by
    intro es hne
    induction es with
    | nil => rfl
    | cons a es ih =>
      rw [List.map_cons, lookup_cons, lookup_cons, ih]
      by_cases ha : a.key = key
      · have hak : a.key ≠ k := fun e => hne (ha.symm.trans e)
        simp [ha, hne]
      · rw [if_neg ha]
  by_cases hk : key = k
  · subst hk
    rw [if_pos rfl]
    induction entries with
    | nil => exact absurd hm List.not_mem_nil
    | cons a entries ih =>
      rw [List.map_cons, lookup_cons]
      by_cases ha : a.key = key
      · simp [ha]
      · rw [if_neg ha, if_neg ha]
        rcases List.mem_cons.mp hm with he | he
        · exact absurd he.symm ha
        · exact ih he
  · rw [if_neg hk]
    exact hother entries hk

theorem lookup_putEntry (key value k : List UInt8) (entries : List ConfigEntry) :
    lookup (putEntry key value entries) k =
      if key = k then some value else lookup entries k := by
  unfold putEntry
  split
  next hm => exact lookup_replaced key value k hm
  next hm =>
    apply lookup_append entries ⟨key, value⟩
    by_cases hk : key = k
    · exact .inl (hk ▸ hm)
    · exact .inr hk

theorem length_putEntry (key value : List UInt8) (entries : List ConfigEntry) :
    (putEntry key value entries).length =
      if key ∈ entries.map (·.key) then entries.length else entries.length + 1 := by
  unfold putEntry
  split <;> simp

theorem nodup_putEntry (key value : List UInt8) (hn : (entries.map (·.key)).Nodup) :
    ((putEntry key value entries).map (·.key)).Nodup := by
  unfold putEntry
  split
  next =>
    rw [keys_replaced]
    exact hn
  next hm =>
    have hconcat := hn.concat hm
    rw [List.concat_eq_append] at hconcat
    rwa [List.map_append, List.map_singleton]

theorem mem_putEntry (h : e ∈ putEntry key value entries) : e ∈ entries ∨ e = ⟨key, value⟩ := by
  unfold putEntry at h
  split at h
  next =>
    obtain ⟨a, ha, hae⟩ := List.mem_map.mp h
    split at hae
    next hk =>
      obtain ⟨akey, avalue⟩ := a
      exact .inr (by rw [← hae, hk])
    next => exact .inl (hae ▸ ha)
  next =>
    rcases List.mem_append.mp h with h | h
    · exact .inl h
    · exact .inr (List.mem_singleton.mp h)

theorem reistConfigSet_cases (hv : ConfigValid document) (key value : List UInt8) :
    (∃ e, e ≠ reistConfigOk ∧ reistConfigSet document (some key) (some value) = (e, document)) ∨
    ((pair ⟨key, value⟩).WellFormed ∧
      reistConfigSet document (some key) (some value) =
        (reistConfigOk, { document with entries := putEntry key value document.entries }) ∧
      ConfigValid { document with entries := putEntry key value document.entries }) := by
  unfold reistConfigSet
  dsimp only
  rw [validKey_bounded, validValue_bounded]
  split
  next => exact .inl ⟨reistConfigEinval, by decide, rfl⟩
  next =>
    split
    next => exact .inl ⟨reistConfigEinval, by decide, rfl⟩
    next hvalid =>
      have hw : (pair ⟨key, value⟩).WellFormed := by
        simpa [ConfigLine.WellFormed] using hvalid
      have hklen := (validKey_spec hw.1).2.1
      have hput : ∀ hroom : key ∉ document.entries.map (·.key) →
            document.entries.length < reistConfigEntryCapacity,
          ConfigValid { document with entries := putEntry key value document.entries } := by
        intro hroom
        refine ⟨hv.schema, ?_, nodup_putEntry key value hv.nodup, ?_⟩
        · intro e he
          rcases mem_putEntry he with he | rfl
          · exact hv.entries e he
          · exact hw
        · dsimp only
          rw [length_putEntry]
          split
          next => exact hv.bounded
          next hm =>
            have hlt := hroom hm
            omega
      rw [setEntry_eq value hklen hv.nodup]
      by_cases hm : key ∈ document.entries.map (·.key)
      · rw [if_pos hm]
        have heq : putEntry key value document.entries = document.entries.map
            fun e => if e.key = key then { e with value := value } else e := if_pos hm
        rw [← heq]
        exact .inr ⟨hw, rfl, hput fun hnot => absurd hm hnot⟩
      · rw [if_neg hm]
        dsimp only
        split
        next => exact .inl ⟨reistConfigEcapacity, by decide, rfl⟩
        next hroom =>
          have heq : putEntry key value document.entries =
              document.entries ++ [⟨key, value⟩] := if_neg hm
          rw [← heq]
          exact .inr ⟨hw, rfl, hput fun _ => by omega⟩

theorem reistConfigSet_fails (hv : ConfigValid document) (key value : ConfigString)
    (h : (reistConfigSet document key value).1 ≠ reistConfigOk) :
    (reistConfigSet document key value).2 = document := by
  cases key with
  | none => rfl
  | some key =>
    cases value with
    | none => rfl
    | some value =>
      rcases reistConfigSet_cases hv key value with ⟨e, -, he⟩ | ⟨-, hok, -⟩
      · rw [he]
      · rw [hok] at h
        exact absurd rfl h

theorem reistConfigGet_eq (hv : ConfigValid document) (key : List UInt8) :
    reistConfigGet document (some key) = lookup document.entries key := by
  unfold reistConfigGet
  dsimp only
  rw [validKey_bounded]
  split
  next hkey =>
    have hnone : ∀ e ∈ document.entries, ¬ (e.key == key) = true := by
      intro e he hek
      have hek' : e.key = key := by simpa using hek
      have hvalid := (hv.entries e he).1
      rw [hek'] at hvalid
      simp [hvalid] at hkey
    rw [lookup, List.find?_eq_none.mpr hnone]
    rfl
  next hkey =>
    have hvalid : validKey key key.length = true := by simpa using hkey
    have hlen := (validKey_spec hvalid).2.1
    have hsame : (fun e : ConfigEntry => textEqual e.key key reistConfigKeyCapacity) =
        fun e => e.key == key := by
      funext e
      rw [Bool.eq_iff_iff, textEqual_key hlen]
      simp
    rw [hsame]
    rfl

/-- The value that was set last for the key, else the one of the parsed text. -/
def lastSet (sets start : List ConfigEntry) (key : List UInt8) : ConfigString :=
  sets.foldl (fun value e => if e.key = key then some e.value else value) (lookup start key)

theorem setAll_spec {start : ConfigDocument} {sets : List ConfigEntry} (hv : ConfigValid start)
    (h : setAll start sets = some document) :
    ConfigValid document ∧ document.schema = start.schema ∧
      (∀ k, k ∈ document.entries.map (·.key) ↔
        k ∈ start.entries.map (·.key) ∨ ∃ e ∈ sets, e.key = k) ∧
      ∀ k, lookup document.entries k = lastSet sets start.entries k := by
  induction sets generalizing start with
  | nil =>
    cases Option.some.inj h
    exact ⟨hv, rfl, fun k => by simp, fun k => rfl⟩
  | cons e sets ih =>
    rw [setAll] at h
    rcases reistConfigSet_cases hv e.key e.value with ⟨r, hr, hset⟩ | ⟨-, hset, hnext⟩
    · rw [hset] at h
      simp only [if_neg hr] at h
      cases h
    · rw [hset] at h
      simp only [if_true] at h
      obtain ⟨hvalid, hschema, hkeys, hlast⟩ := ih hnext h
      refine ⟨hvalid, hschema, fun k => ?_, fun k => ?_⟩
      · rw [hkeys k, mem_keys_putEntry]
        constructor
        · rintro ((hm | rfl) | ⟨e', he', hk⟩)
          · exact .inl hm
          · exact .inr ⟨e, List.mem_cons_self, rfl⟩
          · exact .inr ⟨e', List.mem_cons_of_mem _ he', hk⟩
        · rintro (hm | ⟨e', he', hk⟩)
          · exact .inl (.inl hm)
          · rcases List.mem_cons.mp he' with rfl | he'
            · exact .inl (.inr hk.symm)
            · exact .inr ⟨e', he', hk⟩
      · rw [hlast k]
        unfold lastSet
        rw [lookup_putEntry, List.foldl_cons]

/-! The serializer. -/

theorem appendText_ok {used text : List UInt8} (h : appendText capacity used text = .ok out) :
    out = used ++ text ∧ out.length < capacity := by
  unfold appendText at h
  dsimp only at h
  split at h
  next => cases h
  next hroom =>
    cases h
    have hlen : boundedLength text capacity = text.length := by
      unfold boundedLength at hroom ⊢
      omega
    rw [hlen] at hroom
    refine ⟨rfl, ?_⟩
    rw [List.length_append]
    omega

theorem appendTexts_ok {texts : List (List UInt8)} {used : List UInt8}
    (hused : used.length ≤ capacity) (h : appendTexts capacity used texts = .ok out) :
    out = used ++ texts.flatten ∧ out.length ≤ capacity := by
  induction texts generalizing used with
  | nil =>
    cases h
    exact ⟨by simp, hused⟩
  | cons text texts ih =>
    rw [appendTexts] at h
    split at h
    next used' hu =>
      obtain ⟨rfl, hlt⟩ := appendText_ok hu
      obtain ⟨ho, hl⟩ := ih (by omega) h
      exact ⟨by rw [ho, List.flatten_cons, List.append_assoc], hl⟩
    next => cases h

def entryLine (e : ConfigEntry) : ConfigLine × Bool := (.pair e, false)

theorem join_entryLine (e : ConfigEntry) (entries : List ConfigEntry) :
    Lines.join newlineByte ((entryLine e :: entries.map entryLine).map render) =
      e.key ++ equalsByte :: (e.value ++ newlineByte ::
        Lines.join newlineByte ((entries.map entryLine).map render)) := by
  simp [Lines.join, entryLine, render, content]

theorem serializeEntries_ok {used : List UInt8} (hused : used.length ≤ capacity)
    (h : serializeEntries capacity used entries = .ok out) :
    out = used ++ Lines.join newlineByte ((entries.map entryLine).map render) ∧
      out.length ≤ capacity := by
  induction entries generalizing used with
  | nil =>
    cases h
    exact ⟨by simp [Lines.join], hused⟩
  | cons e entries ih =>
    rw [serializeEntries] at h
    split at h
    next => cases h
    next =>
      split at h
      next used' hu =>
        obtain ⟨rfl, hlt⟩ := appendTexts_ok hused hu
        obtain ⟨ho, hl⟩ := ih hlt h
        refine ⟨?_, hl⟩
        rw [ho, List.map_cons, join_entryLine]
        simp
      next => cases h

theorem reistConfigSerialize_ok (h : reistConfigSerialize document capacity = .ok out) :
    out = Lines.join newlineByte ((entryLine ⟨schemaKey, document.schema⟩ ::
        document.entries.map entryLine).map render) ∧
      out.length ≤ reistConfigFileCapacity := by
  unfold reistConfigSerialize at h
  split at h
  next => cases h
  next hcap =>
    split at h
    next used hu =>
      obtain ⟨rfl, hlt⟩ := appendTexts_ok (Nat.zero_le _) hu
      obtain ⟨ho, hl⟩ := serializeEntries_ok hlt h
      refine ⟨?_, by omega⟩
      rw [ho, join_entryLine]
      simp
    next => cases h

theorem parse_serialize_iff (hv : ConfigValid document)
    (h : reistConfigSerialize document capacity = .ok out) :
    reistConfigParse (some out) (some document.schema) = (reistConfigOk, document) ↔
      schemaKey ∉ document.entries.map (·.key) := by
  obtain ⟨hout, hlen⟩ := reistConfigSerialize_ok h
  constructor
  · intro hparse
    exact (reistConfigParse_valid hparse).2
  · intro hreserved
    refine (reistConfigParse_iff _ _ _).mpr ⟨hlen, hv.schema, _, ?_, hout, ?_, rfl,
      hv.nodup, hreserved, hv.bounded⟩
    · have hschema : (pair ⟨schemaKey, document.schema⟩).WellFormed := by
        have hkey : validKey schemaKey schemaKey.length = true := by decide
        refine ⟨hkey, ?_⟩
        obtain ⟨hne, hl, hbytes⟩ := validValue_spec hv.schema
        have hcap : document.schema.length < reistConfigValueCapacity := by
          simp only [reistConfigSchemaCapacity, reistConfigValueCapacity] at hl ⊢
          omega
        have hpos : document.schema.length ≠ 0 := fun hz =>
          hne (List.eq_nil_of_length_eq_zero hz)
        simp only [validValue, List.take_length, Bool.and_eq_true, List.all_eq_true]
        exact ⟨⟨by simpa using hpos, by simpa using hcap⟩, hbytes⟩
      intro line hline
      rcases List.mem_cons.mp hline with rfl | hline
      · exact hschema
      · obtain ⟨e, he, rfl⟩ := List.mem_map.mp hline
        exact hv.entries e he
    · have hpairs : (document.entries.map entryLine).filterMap pair? =
          document.entries := by
        rw [List.filterMap_map]
        have hsome : (pair? ∘ entryLine) = some := rfl
        rw [hsome, List.filterMap_some]
      have hfirst : pair? (entryLine ⟨schemaKey, document.schema⟩) =
          some ⟨schemaKey, document.schema⟩ := rfl
      rw [List.filterMap_cons_some hfirst, hpairs]

/-- What the configuration library keeps to. A document that was parsed and then set survives
the round trip exactly when no set used the reserved key. -/
theorem reistConfig_roundTrip_iff (data expected : List UInt8) :
    (∀ start sets document,
      reistConfigParse (some data) (some expected) = (reistConfigOk, start) →
      setAll start sets = some document →
      (∀ capacity out, reistConfigSerialize document capacity = .ok out →
        (reistConfigParse (some out) (some document.schema) = (reistConfigOk, document) ↔
          ∀ e ∈ sets, e.key ≠ schemaKey)) ∧
      (∀ key, reistConfigGet document (some key) = lastSet sets start.entries key) ∧
      ∀ key value, (reistConfigSet document key value).1 ≠ reistConfigOk →
        (reistConfigSet document key value).2 = document) ∧
    (∀ document,
      reistConfigParse (some data) (some expected) = (reistConfigOk, document) ↔
        data.length ≤ reistConfigFileCapacity ∧
        validValue expected expected.length reistConfigSchemaCapacity = true ∧
        ConfigText expected data document) ∧
    ∀ text schema, (reistConfigParse text schema).1 ≠ reistConfigOk →
      (reistConfigParse text schema).2 = emptyConfig := by
  refine ⟨?_, reistConfigParse_iff data expected, reistConfigParse_fails⟩
  intro start sets document hparse hsets
  obtain ⟨hstart, hreserved⟩ := reistConfigParse_valid hparse
  obtain ⟨hv, -, hkeys, hlast⟩ := setAll_spec hstart hsets
  refine ⟨fun capacity out hout => ?_, fun key => ?_, fun key value => reistConfigSet_fails hv key value⟩
  · rw [parse_serialize_iff hv hout, hkeys]
    constructor
    · intro hnot e he hk
      exact hnot (.inr ⟨e, he, hk⟩)
    · rintro hsetsKey (hm | ⟨e, he, hk⟩)
      · exact hreserved hm
      · exact hsetsKey e he hk
  · rw [reistConfigGet_eq hv, hlast]

/-- A file that cannot be read again: "schema=a", and then the key "schema" set to "b". -/
theorem schema_set_not_readable :
    ∃ start document out,
      reistConfigParse (some (schemaKey ++ [equalsByte, 0x61, newlineByte])) (some [0x61]) =
        (reistConfigOk, start) ∧
      reistConfigSet start (some schemaKey) (some [0x62]) = (reistConfigOk, document) ∧
      reistConfigSerialize document reistConfigFileCapacity = .ok out ∧
      reistConfigParse (some out) (some document.schema) = (reistConfigEduplicate, emptyConfig) :=
  ⟨⟨[0x61], []⟩, ⟨[0x61], [⟨schemaKey, [0x62]⟩]⟩,
    schemaKey ++ [equalsByte, 0x61, newlineByte] ++ schemaKey ++ [equalsByte, 0x62, newlineByte],
    by decide +kernel, by decide +kernel, by rfl, by decide +kernel⟩

end ReistOs
