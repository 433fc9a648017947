import PageWalk.Proofs.Decoding
import PageWalk.Proofs.JsonBounds
import PageWalk.Session.Data

/-!
# Session files read back

A session is `Storable` when its file holds it: the times are of 64 bits and the unknown fields of its
cookies are sorted, not too deep and exact. What is read from a file is so, but for floating-point
numbers, and what is written for such a session is read back, whichever of its records go by the names
of older files.
-/

namespace PageWalk

set_option autoImplicit false

open Json (Slot Fields)

/-! ## Records -/

namespace Record

/-- The times that a file can hold. -/
def Timed (r : Record) : Prop :=
  -0x8000000000000000 ≤ r.time ∧ r.time ≤ 0x7FFFFFFFFFFFFFFF

instance (r : Record) : Decidable r.Timed :=
  inferInstanceAs (Decidable (_ ∧ _))

/-- An object in which one key goes by another name. -/
def renamed (key other : String) : Json → Json
  | .obj members => .obj (members.map fun (k, value) => (if k = key then other else k, value))
  | value => value

/-- A record with the command or the locator, or both, under the names of older files. -/
def namedJson (olderCommand olderLocator : Bool) (r : Record) : Json :=
  let first := if olderCommand then renamed "command" "action" r.toJson else r.toJson
  if olderLocator then renamed "semanticLocator" "semantic" first else first

theorem exists_namedJson (olderCommand olderLocator : Bool) (r : Record) :
    ∃ command locator, command ∈ ["command", "action"] ∧
      locator ∈ ["semanticLocator", "semantic"] ∧
      r.namedJson olderCommand olderLocator = .obj ((command, .str r.command) ::
        (Json.optional locator r.locator ++ [("timestamp", .int r.time)])) := by
  refine ⟨if olderCommand then "action" else "command",
    if olderLocator then "semantic" else "semanticLocator", ?_, ?_, ?_⟩
  · cases olderCommand <;> decide
  · cases olderLocator <;> decide
  · obtain ⟨command, locator, time⟩ := r
    cases locator <;> cases olderCommand <;> cases olderLocator <;> rfl

theorem ofJson_of_fields {members : List (String × Json)} {r : Record}
    (command : (Fields.named members).required ⟨["command", "action"], 0⟩ Json.asString =
      .ok r.command)
    (locator : (Fields.named members).withDefault ⟨["semanticLocator", "semantic"], 1⟩ none
      (Json.asOption Json.asString) = .ok r.locator)
    (time : (Fields.named members).required ⟨["timestamp"], 2⟩ Json.asInt64 = .ok r.time) :
    ofJson (.obj members) = .ok r := by
  simp only [ofJson, Json.asFields, bind, Except.bind, command, locator, time]
  rfl

theorem ofJson_namedJson {r : Record} (timed : r.Timed) (olderCommand olderLocator : Bool) :
    ofJson (r.namedJson olderCommand olderLocator) = .ok r := by
  obtain ⟨command, locator, command_name, locator_name, written⟩ :=
    exists_namedJson olderCommand olderLocator r
  have apart : ∀ c ∈ ["command", "action"], ∀ l ∈ ["semanticLocator", "semantic"],
      c ∉ ["semanticLocator", "semantic"] ∧ c ∉ ["timestamp"] ∧ l ∉ ["command", "action"] ∧
        l ∉ ["timestamp"] := by decide
  obtain ⟨not_locator, not_time, not_command, not_time'⟩ :=
    apart command command_name locator locator_name
  have fits : Json.asInt64 (.int r.time) = .ok r.time := if_pos timed
  let members := (command, Json.str r.command) ::
    (Json.optional locator r.locator ++ [("timestamp", .int r.time)])
  have first : (Slot.mk ["command", "action"] 0).among members = [(command, .str r.command)] := by
    simp [members, Json.among_cons, Json.among_append, Json.among_optional, Json.among_nil, *]
  have second : (Slot.mk ["semanticLocator", "semantic"] 1).among members =
      Json.optional locator r.locator := by
    simp [members, Json.among_cons, Json.among_append, Json.among_optional, Json.among_nil, *]
  have third : (Slot.mk ["timestamp"] 2).among members = [("timestamp", .int r.time)] := by
    simp [members, Json.among_cons, Json.among_append, Json.among_optional, Json.among_nil, *]
  rw [written]
  exact ofJson_of_fields (Json.required_named first) (Json.text_named second)
    ((Json.required_named third).trans fits)

theorem exact_namedJson {r : Record} (timed : r.Timed) (olderCommand olderLocator : Bool) :
    (r.namedJson olderCommand olderLocator).Exact := by
  obtain ⟨command, locator, -, -, written⟩ := exists_namedJson olderCommand olderLocator r
  have range : Json.InRange r.time := by
    obtain ⟨low, high⟩ := timed
    exact ⟨low, by omega⟩
  rw [written]
  refine .obj (List.forall_mem_cons.mpr ⟨.leaf rfl trivial, ?_⟩)
  refine List.forall_mem_append.mpr ⟨Json.exact_optional, ?_⟩
  exact List.forall_mem_singleton.mpr (.leaf rfl range)

theorem timed_of_ofJson {j : Json} {r : Record} (h : ofJson j = .ok r) : r.Timed := by
  unfold ofJson at h
  obtain ⟨fields, -, h⟩ := Json.exists_of_bind_ok h
  obtain ⟨command, -, h⟩ := Json.exists_of_bind_ok h
  obtain ⟨locator, -, h⟩ := Json.exists_of_bind_ok h
  obtain ⟨time, read, h⟩ := Json.exists_of_bind_ok h
  cases h
  obtain ⟨value, -, read⟩ := Json.exists_of_required read
  exact Json.bounds_of_asInt read

end Record

/-! ## Cookies -/

namespace Cookie

/-- A cookie that is read from a file as it was written to it. -/
structure Storable (c : Cookie) : Prop where
  sorted : Json.Sorted c.extra
  unknown : ∀ field ∈ c.extra, field.1 ∉ knownFields
  normal : ∀ field ∈ c.extra, field.2.normal = field.2
  shallow : ∀ field ∈ c.extra, field.2.depth ≤ maxDepth
  exact : ∀ field ∈ c.extra, field.2.Exact

theorem storable_of_extra_eq_nil {c : Cookie} (none : c.extra = []) : c.Storable := by
  constructor <;> simp [none, Json.Sorted]

section Reading

variable {c : Cookie} {slot : Slot} {key : String}

theorem among_extra (unknown : ∀ field ∈ c.extra, field.1 ∉ knownFields)
    (known : ∀ name ∈ slot.names, name ∈ knownFields) : slot.among c.extra = [] := by
  refine List.filter_eq_nil_iff.mpr fun field there named => unknown field there (known _ ?_)
  simpa using named

theorem among_flag {b : Option Bool} :
    slot.among (flag key b) = if key ∈ slot.names then flag key b else [] := by
  cases b with
  | none => simp [flag, Json.among_nil]
  | some b => simp [flag, Json.among_cons, Json.among_nil]

theorem flag_named {b : Option Bool} {members : List (String × Json)}
    (h : slot.among members = flag key b) :
    (Fields.named members).withDefault slot none (Json.asOption Json.asBool) = .ok b := by
  have found : slot.among members = ((b.map Json.bool).map fun value => (key, value)).toList := by
    rw [h]
    cases b <;> rfl
  rw [Json.withDefault_named none found]
  cases b <;> rfl

theorem readExtra_mapM (c : Cookie) (storable : c.Storable) :
    c.extra.mapM readExtra = .ok c.extra := by
  have each : ∀ field ∈ c.extra, readExtra field = .ok field := by
    intro field there
    have readable : field.2.readable = true := by
      rw [Json.readable_iff]
      refine (storable.exact field there).imp fun v _ plain => ?_
      rintro rfl
      exact plain
    rw [readExtra, if_pos ⟨readable, storable.shallow field there⟩, storable.normal field there]
  have back : (c.extra.map id).mapM readExtra = .ok (c.extra.map id) := Json.mapM_map_ok each
  rwa [List.map_id] at back

/-- The members of a cookie whose fields are known. -/
def knownMembers (c : Cookie) : List (String × Json) :=
  [("name", .str c.name), ("value", .str c.value)] ++ Json.optional "domain" c.domain ++
    Json.optional "path" c.path ++ flag "secure" c.secure ++ flag "httpOnly" c.httpOnly

theorem toJson_eq (c : Cookie) : c.toJson = .obj (c.knownMembers ++ c.extra) := rfl

theorem fst_of_mem_flag {b : Option Bool} {m : String × Json} (h : m ∈ flag key b) : m.1 = key := by
  cases b with
  | none => cases h
  | some b => rw [List.mem_singleton.mp h]

theorem fst_mem_knownFields : ∀ m ∈ c.knownMembers, m.1 ∈ knownFields := by
  intro m there
  simp only [knownMembers, List.mem_append, List.mem_cons, List.not_mem_nil, or_false] at there
  rcases there with ((((rfl | rfl) | domain) | path) | secure) | httpOnly
  · exact List.mem_cons_self
  · exact List.mem_cons_of_mem _ List.mem_cons_self
  · rw [Json.fst_of_mem_optional domain]; decide
  · rw [Json.fst_of_mem_optional path]; decide
  · rw [fst_of_mem_flag secure]; decide
  · rw [fst_of_mem_flag httpOnly]; decide

theorem filter_unknown (unknown : ∀ field ∈ c.extra, field.1 ∉ knownFields) :
    (c.knownMembers ++ c.extra).filter (fun (key, _) => !knownFields.contains key) = c.extra := by
  have known : c.knownMembers.filter (fun (key, _) => !knownFields.contains key) = [] := by
    refine List.filter_eq_nil_iff.mpr fun m there => ?_
    simpa using fst_mem_knownFields m there
  have others : c.extra.filter (fun (key, _) => !knownFields.contains key) = c.extra := by
    refine List.filter_eq_self.mpr fun m there => ?_
    simpa using unknown m there
  rw [List.filter_append, known, others, List.nil_append]

/-- A field of one name is looked for among the known members only. -/
theorem among_members (unknown : ∀ field ∈ c.extra, field.1 ∉ knownFields) {name : String}
    (known : name ∈ knownFields) {found : List (String × Json)}
    (h : (Slot.mk [name] 0).among c.knownMembers = found) :
    (Slot.mk [name] 0).among (c.knownMembers ++ c.extra) = found := by
  have none : (Slot.mk [name] 0).among c.extra = [] :=
    among_extra unknown (List.forall_mem_singleton.mpr known)
  rw [Json.among_append, none, List.append_nil, h]

theorem ofJson_toJson (storable : c.Storable) : ofJson c.toJson = .ok c := by
  have name := among_members storable.unknown (by decide)
    (show (Slot.mk ["name"] 0).among c.knownMembers = [("name", .str c.name)] by
      simp [knownMembers, Json.among_cons, Json.among_append, Json.among_optional, among_flag])
  have value := among_members storable.unknown (by decide)
    (show (Slot.mk ["value"] 0).among c.knownMembers = [("value", .str c.value)] by
      simp [knownMembers, Json.among_cons, Json.among_append, Json.among_optional, among_flag])
  have domain := among_members storable.unknown (by decide)
    (show (Slot.mk ["domain"] 0).among c.knownMembers = Json.optional "domain" c.domain by
      simp [knownMembers, Json.among_cons, Json.among_append, Json.among_optional, among_flag])
  have path := among_members storable.unknown (by decide)
    (show (Slot.mk ["path"] 0).among c.knownMembers = Json.optional "path" c.path by
      simp [knownMembers, Json.among_cons, Json.among_append, Json.among_optional, among_flag])
  have secure := among_members storable.unknown (by decide)
    (show (Slot.mk ["secure"] 0).among c.knownMembers = flag "secure" c.secure by
      simp [knownMembers, Json.among_cons, Json.among_append, Json.among_optional, among_flag])
  have httpOnly := among_members storable.unknown (by decide)
    (show (Slot.mk ["httpOnly"] 0).among c.knownMembers = flag "httpOnly" c.httpOnly by
      simp [knownMembers, Json.among_cons, Json.among_append, Json.among_optional, among_flag])
  rw [toJson_eq, ofJson]
  simp only [Json.required_named name, Json.required_named value, Json.text_named domain,
    Json.text_named path, flag_named secure, flag_named httpOnly,
    filter_unknown storable.unknown, readExtra_mapM c storable, bind, Except.bind,
    storable.sorted.sortMembers_eq]
  rfl

end Reading

theorem exact_toJson {c : Cookie} (storable : c.Storable) : c.toJson.Exact := by
  have flags : ∀ key b, ∀ m ∈ flag key b, m.2.Exact := by
    intro key b
    cases b with
    | none => exact List.forall_mem_nil _
    | some b => exact List.forall_mem_singleton.mpr (.leaf rfl trivial)
  rw [toJson_eq]
  refine .obj (List.forall_mem_append.mpr ⟨?_, storable.exact⟩)
  simp only [knownMembers, List.forall_mem_append, List.forall_mem_cons]
  exact ⟨⟨⟨⟨⟨.leaf rfl trivial, .leaf rfl trivial, List.forall_mem_nil _⟩, Json.exact_optional⟩,
    Json.exact_optional⟩, flags _ _⟩, flags _ _⟩

/-- A cookie of a file has no unknown fields but those that it would be written with. -/
theorem storable_of_ofJson {j : Json} {c : Cookie} (bounded : j.Every Json.Bounded)
    (h : ofJson j = .ok c) (free : ∀ field ∈ c.extra, field.2.FloatFree) : c.Storable := by
  cases j with
  | obj members =>
    rw [ofJson] at h
    obtain ⟨name, -, h⟩ := Json.exists_of_bind_ok h
    obtain ⟨value, -, h⟩ := Json.exists_of_bind_ok h
    obtain ⟨domain, -, h⟩ := Json.exists_of_bind_ok h
    obtain ⟨path, -, h⟩ := Json.exists_of_bind_ok h
    obtain ⟨secure, -, h⟩ := Json.exists_of_bind_ok h
    obtain ⟨httpOnly, -, h⟩ := Json.exists_of_bind_ok h
    obtain ⟨extra, read, h⟩ := Json.exists_of_bind_ok h
    cases h
    have source : ∀ field ∈ Json.sortMembers extra, ∃ m ∈ members, field.1 = m.1 ∧
        m.1 ∉ knownFields ∧ m.2.readable = true ∧ m.2.depth ≤ maxDepth ∧ field.2 = m.2.normal := by
      intro field there
      obtain ⟨m, of, read⟩ := Json.exists_of_mem_mapM_ok read field (Json.mem_of_mem_sortMembers there)
      obtain ⟨mem, unknown⟩ := List.mem_filter.mp of
      unfold readExtra at read
      split_ifs at read with fits
      cases read
      exact ⟨m, mem, rfl, by simpa using unknown, fits.1, fits.2, rfl⟩
    constructor
    · exact Json.sorted_sortMembers extra
    · intro field there
      obtain ⟨m, -, name, unknown, -⟩ := source field there
      rw [name]
      exact unknown
    · intro field there
      obtain ⟨m, -, -, -, -, -, value⟩ := source field there
      rw [value]
      exact m.2.normal_normal
    · intro field there
      obtain ⟨m, -, -, -, -, shallow, value⟩ := source field there
      rw [value]
      exact Nat.le_trans m.2.depth_normal_le shallow
    · intro field there
      obtain ⟨m, mem, -, -, readable, -, value⟩ := source field there
      have parts : field.2.readable = true := by
        rw [value, Json.readable_iff]
        exact (Json.readable_iff.mp readable).normal
      have within : field.2.Every Json.Bounded := by
        rw [value]
        exact (bounded.of_obj m mem).normal
      exact Json.exact_of_readable parts within (free field there)
  | _ => cases h

end Cookie

/-! ## Sessions -/

theorem StorageEntry.ofJson_toJson (e : StorageEntry) : ofJson e.toJson = .ok e := by
  have name : (Slot.mk ["name"] 0).among [("name", .str e.name), ("value", .str e.value)] =
      [("name", .str e.name)] := by simp [Json.among_cons, Json.among_nil]
  have value : (Slot.mk ["value"] 1).among [("name", .str e.name), ("value", .str e.value)] =
      [("value", .str e.value)] := by simp [Json.among_cons, Json.among_nil]
  simp only [ofJson, toJson, Json.asFields, bind, Except.bind, Json.required_named name,
    Json.required_named value]
  rfl

theorem StorageEntry.exact_toJson (e : StorageEntry) : e.toJson.Exact :=
  .obj (List.forall_mem_cons.mpr ⟨.leaf rfl trivial, List.forall_mem_singleton.mpr (.leaf rfl trivial)⟩)

theorem OriginStorage.ofJson_toJson (s : OriginStorage) : ofJson s.toJson = .ok s := by
  have entries : (Json.arr (s.entries.map StorageEntry.toJson)).asList StorageEntry.ofJson =
      .ok s.entries := Json.asList_map fun e _ => e.ofJson_toJson
  rw [toJson]
  generalize Json.arr (s.entries.map StorageEntry.toJson) = stored at entries ⊢
  have origin : (Slot.mk ["origin"] 0).among
      [("origin", .str s.origin), ("localStorage", stored)] = [("origin", .str s.origin)] := by
    simp [Json.among_cons, Json.among_nil]
  have storage : (Slot.mk ["localStorage"] 1).among
      [("origin", .str s.origin), ("localStorage", stored)] = [("localStorage", stored)] := by
    simp [Json.among_cons, Json.among_nil]
  simp only [ofJson, Json.asFields, bind, Except.bind, Json.required_named origin,
    Json.given_named [] storage, entries]
  rfl

theorem OriginStorage.exact_toJson (s : OriginStorage) : s.toJson.Exact := by
  refine .obj (List.forall_mem_cons.mpr ⟨.leaf rfl trivial, List.forall_mem_singleton.mpr ?_⟩)
  exact .arr (List.forall_mem_map.mpr fun e _ => e.exact_toJson)

namespace Session

/-- A session that is read from a file as it was written to it. -/
structure Storable (d : Session) : Prop where
  cookies : ∀ c ∈ d.cookies, c.Storable
  history : ∀ r ∈ d.history, r.Timed

/-- A session in which some records, by their place, go by the names of older files. -/
def namedJson (olderCommand olderLocator : Nat → Bool) (d : Session) : Json :=
  .obj [
    ("cookies", .arr (d.cookies.map Cookie.toJson)),
    ("origins", .arr (d.origins.map OriginStorage.toJson)),
    ("history", .arr (d.history.zipIdx.map fun (r, i) =>
      r.namedJson (olderCommand i) (olderLocator i)))]

def namedText (olderCommand olderLocator : Nat → Bool) (d : Session) : String :=
  (d.namedJson olderCommand olderLocator).pretty

variable {d : Session}

theorem namedText_newer (d : Session) : d.namedText (fun _ => false) (fun _ => false) = d.text := by
  have records : d.history.zipIdx.map (fun (r, _) => r.namedJson false false) =
      d.history.map Record.toJson := by
    have first := congrArg (List.map Record.toJson) (List.zipIdx_map_fst 0 d.history)
    rwa [List.map_map] at first
  rw [namedText, namedJson, records]
  rfl

theorem ofJson_namedJson (storable : d.Storable) (olderCommand olderLocator : Nat → Bool) :
    ofJson (d.namedJson olderCommand olderLocator) = .ok d := by
  have cookies : (Json.arr (d.cookies.map Cookie.toJson)).asList Cookie.ofJson = .ok d.cookies :=
    Json.asList_map fun c there => Cookie.ofJson_toJson (storable.cookies c there)
  have origins : (Json.arr (d.origins.map OriginStorage.toJson)).asList OriginStorage.ofJson =
      .ok d.origins := Json.asList_map fun s _ => s.ofJson_toJson
  have history : (Json.arr (d.history.zipIdx.map fun (r, i) =>
      r.namedJson (olderCommand i) (olderLocator i))).asList Record.ofJson = .ok d.history := by
    have records : (d.history.zipIdx.map fun (r, i) =>
        r.namedJson (olderCommand i) (olderLocator i)).mapM Record.ofJson =
          .ok (d.history.zipIdx.map Prod.fst) := by
      refine Json.mapM_map_ok fun (r, i) there => ?_
      have timed := storable.history r (List.fst_mem_of_mem_zipIdx there)
      exact Record.ofJson_namedJson timed _ _
    rwa [List.zipIdx_map_fst] at records
  rw [namedJson]
  generalize Json.arr (d.cookies.map Cookie.toJson) = first at cookies ⊢
  generalize Json.arr (d.origins.map OriginStorage.toJson) = second at origins ⊢
  generalize Json.arr (d.history.zipIdx.map fun (r, i) =>
    r.namedJson (olderCommand i) (olderLocator i)) = third at history ⊢
  have of_cookies : (Slot.mk ["cookies"] 0).among
      [("cookies", first), ("origins", second), ("history", third)] = [("cookies", first)] := by
    simp [Json.among_cons, Json.among_nil]
  have of_origins : (Slot.mk ["origins"] 1).among
      [("cookies", first), ("origins", second), ("history", third)] = [("origins", second)] := by
    simp [Json.among_cons, Json.among_nil]
  have of_history : (Slot.mk ["history"] 2).among
      [("cookies", first), ("origins", second), ("history", third)] = [("history", third)] := by
    simp [Json.among_cons, Json.among_nil]
  simp only [ofJson, Json.asFields, bind, Except.bind, Json.given_named [] of_cookies,
    Json.given_named [] of_origins, Json.given_named [] of_history, cookies, origins, history]
  rfl

theorem exact_namedJson (storable : d.Storable) (olderCommand olderLocator : Nat → Bool) :
    (d.namedJson olderCommand olderLocator).Exact := by
  have cookies : (Json.arr (d.cookies.map Cookie.toJson)).Exact :=
    .arr (List.forall_mem_map.mpr fun c there => Cookie.exact_toJson (storable.cookies c there))
  have origins : (Json.arr (d.origins.map OriginStorage.toJson)).Exact :=
    .arr (List.forall_mem_map.mpr fun s _ => s.exact_toJson)
  have history : (Json.arr (d.history.zipIdx.map fun (r, i) =>
      r.namedJson (olderCommand i) (olderLocator i))).Exact := by
    refine .arr (List.forall_mem_map.mpr fun (r, i) there => ?_)
    have timed := storable.history r (List.fst_mem_of_mem_zipIdx there)
    exact Record.exact_namedJson timed _ _
  refine .obj ?_
  simp only [List.forall_mem_cons]
  exact ⟨cookies, origins, history, List.forall_mem_nil _⟩

theorem ofText?_namedText (storable : d.Storable) (olderCommand olderLocator : Nat → Bool) :
    ofText? (d.namedText olderCommand olderLocator) = some d := by
  have read : Json.read? (d.namedText olderCommand olderLocator) =
      some (d.namedJson olderCommand olderLocator) :=
    Json.read?_pretty (exact_namedJson storable olderCommand olderLocator)
  rw [ofText?, read, Option.map_some, ofJson_namedJson storable]

theorem ofText?_text (storable : d.Storable) : ofText? d.text = some d := by
  rw [← namedText_newer]
  exact ofText?_namedText storable _ _

/-- No unknown field of a cookie holds a floating-point number. -/
def FloatFree (d : Session) : Prop :=
  ∀ c ∈ d.cookies, ∀ field ∈ c.extra, field.2.FloatFree

theorem exists_of_ofText? {text : String} (h : ofText? text = some d) :
    ∃ j, Json.read? text = some j ∧ ofJson j = .ok d := by
  unfold ofText? at h
  cases of_text : Json.read? text with
  | none =>
    rw [of_text] at h
    cases h
  | some j =>
    rw [of_text, Option.map_some] at h
    split at h
    · next same =>
      cases h
      exact ⟨j, rfl, Option.some.inj same⟩
    · cases h

theorem timed_of_ofJson {j : Json} (h : ofJson j = .ok d) : ∀ r ∈ d.history, r.Timed := by
  rw [ofJson] at h
  obtain ⟨fields, -, h⟩ := Json.exists_of_bind_ok h
  obtain ⟨cookies, -, h⟩ := Json.exists_of_bind_ok h
  obtain ⟨origins, -, h⟩ := Json.exists_of_bind_ok h
  obtain ⟨history, of_history, h⟩ := Json.exists_of_bind_ok h
  cases h
  intro r there
  rcases Json.exists_of_withDefault of_history with rfl | ⟨value, found, listed⟩
  · cases there
  · obtain ⟨items, rfl, each⟩ := Json.asList_eq_ok listed
    obtain ⟨item, -, of_item⟩ := Json.exists_of_mem_mapM_ok each r there
    exact Record.timed_of_ofJson of_item

theorem storable_of_ofText? {text : String} (h : ofText? text = some d) (free : d.FloatFree) :
    d.Storable := by
  obtain ⟨j, read, decoded⟩ := exists_of_ofText? h
  refine ⟨?_, timed_of_ofJson decoded⟩
  have bounded := Json.bounded_of_read? read
  rw [ofJson] at decoded
  obtain ⟨fields, of_json, decoded⟩ := Json.exists_of_bind_ok decoded
  obtain ⟨cookies, of_cookies, decoded⟩ := Json.exists_of_bind_ok decoded
  obtain ⟨origins, -, decoded⟩ := Json.exists_of_bind_ok decoded
  obtain ⟨history, -, decoded⟩ := Json.exists_of_bind_ok decoded
  cases decoded
  have every := bounded.asFields of_json
  intro c there
  rcases Json.exists_of_withDefault of_cookies with rfl | ⟨value, found, listed⟩
  · cases there
  · obtain ⟨items, rfl, each⟩ := Json.asList_eq_ok listed
    obtain ⟨item, mem, of_item⟩ := Json.exists_of_mem_mapM_ok each c there
    exact Cookie.storable_of_ofJson ((every.get? found).of_arr item mem) of_item (free c there)

theorem storable_empty : ({} : Session).Storable :=
  ⟨List.forall_mem_nil _, List.forall_mem_nil _⟩

end Session

end PageWalk
