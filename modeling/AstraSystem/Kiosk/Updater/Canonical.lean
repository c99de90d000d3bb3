import AstraSystem.Kiosk.Updater.Crypto
import AstraSystem.UpdateServer.Manifest

/-!
# The bytes that are signed

The server and the kiosk each make a canonical text of a manifest. They differ in the characters that are written by
number, in the order of artifacts and platforms, and in what they make of nil.
-/

namespace Kiosk.Updater

open Assoc (Map)
open UpdateServer (SafeInt SignedManifest marshalByNumber htmlCharacters short_marshal generate canonicalBytes)

/-! ## Receiving -/

def receivedArtifact (a : UpdateServer.Artifact) : Artifact := ⟨a.url, a.checksum, a.platforms⟩

/-- What `JSON.parse` makes of the manifest that is sent, with the artifacts in the order in which they are written. -/
def received (m : SignedManifest) : Manifest where
  version := m.version
  channel := m.channel
  releasedAt := m.releasedAt
  artifacts := m.artifacts.map fun artifacts =>
    (Collation.sortBytes artifacts.keys).filterMap fun name =>
      (artifacts.lookup name).map fun a => (name, receivedArtifact a)
  rollout := some ⟨m.rollout.strategy, m.rollout.maxConcurrent.val.toInt, m.rollout.healthCheckSeconds.val.toInt⟩
  signature := m.signature

/-! ## When the texts agree -/

/-- Neither side writes a character by number that the other does not. -/
def Plain (s : String) : Prop := ∀ c ∈ s.toList, c ∉ htmlCharacters

/-- The order in which the kiosk writes the names of artifacts. -/
def kioskOrder (names : List String) : List String :=
  JsObject.ownKeys ((Collation.sortUnits names).filter fun name => name ≠ "__proto__")

structure SortedAlike (a : UpdateServer.Artifact) : Prop where
  given : a.platforms ≠ none
  order : ∀ platforms ∈ a.platforms, Collation.sortUnits platforms = Collation.sortBytes platforms

/-- Nothing is nil, names and platforms have one order, and every text is plain. -/
structure Agrees (m : UpdateServer.Manifest) : Prop where
  artifacts : ∃ artifacts, m.artifacts = some artifacts ∧
    kioskOrder artifacts.keys = Collation.sortBytes artifacts.keys ∧
    ∀ name a, artifacts.lookup name = some a → SortedAlike a ∧ Plain name ∧ Plain a.url ∧ Plain a.checksum ∧
      ∀ platforms ∈ a.platforms, ∀ p ∈ platforms, Plain p
  version : Plain m.version
  channel : Plain m.channel
  releasedAt : Plain m.releasedAt
  strategy : Plain m.rollout.strategy

section
variable {s : String} {m : UpdateServer.Manifest} {artifacts : Map String UpdateServer.Artifact}

theorem short_stringify : Json.Short stringifyByNumber := by
  intro c h
  have small : c.toNat < 32 := of_decide_eq_true h
  omega

theorem letter?_html {c : Char} (html : c ∈ htmlCharacters) :
    Json.letter? c = none ∧ ¬ c.toNat < 32 := by
  simp only [htmlCharacters, List.mem_cons, List.not_mem_nil, or_false] at html
  obtain rfl | rfl | rfl | rfl | rfl := html <;> decide

/-- The characters that stand in HTML are what the two writers differ in. -/
theorem alike_iff : Json.Alike marshalByNumber stringifyByNumber s ↔ Plain s := by
  rw [Json.Alike, List.all_eq_true]
  refine forall₂_congr fun c _ => ?_
  rw [decide_eq_true_eq, Json.escape_eq_iff]
  by_cases html : c ∈ htmlCharacters
  · obtain ⟨letter, control⟩ := letter?_html html
    simp [letter, marshalByNumber, stringifyByNumber, control, html]
  · simp [marshalByNumber, stringifyByNumber, html]

/-! ## The two texts -/

/-- The artifact of a name, where there is one. -/
def artifactAt (artifacts : Map String UpdateServer.Artifact) (name : String) : UpdateServer.Artifact :=
  (artifacts.lookup name).getD ⟨"", "", none⟩

/-- What both sides write of an artifact, with the platforms in some order. -/
def artifactDoc (a : UpdateServer.Artifact) (platforms : List String) : Json :=
  .object [("url", .string a.url), ("checksum", .string a.checksum),
    ("platforms", .array (platforms.map .string))]

/-- What both sides write of a manifest, with names and platforms in some order. -/
def manifestDoc (m : UpdateServer.Manifest) (artifacts : Map String UpdateServer.Artifact) (names : List String)
    (order : List String → List String) : Json :=
  .object [("version", .string m.version), ("channel", .string m.channel), ("releasedAt", .string m.releasedAt),
    ("artifacts", .object (names.map fun name =>
      (name, artifactDoc (artifactAt artifacts name) (order ((artifactAt artifacts name).platforms.getD []))))),
    ("rollout", m.rollout.doc)]

/-- All names of a map have a value. -/
theorem filterMap_lookup {V W : Type} (f : V → W) (zero : V) {present : Map String V} {names : List String}
    (given : ∀ n ∈ names, n ∈ present.keys) : (names.filterMap fun n => (present.lookup n).map fun v => (n, f v)) =
      names.map fun n => (n, f ((present.lookup n).getD zero)) := by
  rw [← List.filterMap_eq_map]
  refine List.filterMap_congr fun n hn => ?_
  obtain ⟨v, found⟩ := Option.isSome_iff_exists.mp (AList.lookup_isSome.mpr (AList.mem_keys.mpr (given n hn)))
  simp [found]

theorem canonicalBytes_eq (m : UpdateServer.Manifest) : canonicalBytes m =
    Bytes.utf8 (UpdateServer.marshal (manifestDoc m (m.artifacts.getD ∅)
      (Collation.sortBytes (m.artifacts.getD ∅).keys) Collation.sortBytes)) := by
  have docs : UpdateServer.artifactsDoc (UpdateServer.sortArtifacts (m.artifacts.getD ∅)) =
      .object ((Collation.sortBytes (m.artifacts.getD ∅).keys).map fun name => (name,
        artifactDoc (artifactAt (m.artifacts.getD ∅) name)
          (Collation.sortBytes ((artifactAt (m.artifacts.getD ∅) name).platforms.getD [])))) := by
    have present : ∀ n ∈ Collation.sortBytes (m.artifacts.getD ∅).keys, n ∈ (m.artifacts.getD ∅).keys :=
      fun n hn => Collation.mem_sortBy.mp hn
    rw [UpdateServer.artifactsDoc, UpdateServer.sortBytes_sortArtifacts]
    simp only [UpdateServer.lookup_sortArtifacts, Option.map_map, Function.comp_def]
    exact congrArg Json.object
      (filterMap_lookup (fun a : UpdateServer.Artifact => a.sorted.doc) ⟨"", "", none⟩ present)
  simp only [canonicalBytes, UpdateServer.canonical, UpdateServer.Manifest.fields, Option.map_some, Option.getD_some,
    docs]
  rfl

/-- The artifacts that the kiosk has received. -/
theorem received_artifacts (artifacts : Map String UpdateServer.Artifact) :
    ((Collation.sortBytes artifacts.keys).filterMap fun name =>
      (artifacts.lookup name).map fun a => (name, receivedArtifact a)) =
        (Collation.sortBytes artifacts.keys).map fun name => (name, receivedArtifact (artifactAt artifacts name)) :=
  filterMap_lookup receivedArtifact ⟨"", "", none⟩ fun _ hn => Collation.mem_sortBy.mp hn

/-- The names in the order of the kiosk's loop. -/
theorem loop_order (artifacts : Map String UpdateServer.Artifact) :
    Collation.sortUnits (JsObject.keys ((Collation.sortBytes artifacts.keys).map fun name =>
      (name, receivedArtifact (artifactAt artifacts name)))) = Collation.sortUnits artifacts.keys := by
  have names : JsObject.names ((Collation.sortBytes artifacts.keys).map fun name =>
      (name, receivedArtifact (artifactAt artifacts name))) = Collation.sortBytes artifacts.keys := by
    rw [JsObject.names, List.map_map]
    exact List.map_id _
  rw [JsObject.keys, names]
  exact Collation.sortBy_perm Collation.codeUnits_injective
    ((JsObject.perm_ownKeys _).trans (Collation.perm_sortBy _ _))

/-- The loop gets through if no platforms are nil. -/
theorem foldlM_sortArtifact {obj : JsObject.Object Artifact} {at_name : String → Artifact} {names : List String}
    (found : ∀ n ∈ names, JsObject.get? obj n = some (at_name n)) (start : JsObject.Object Artifact) :
    names.foldlM (sortArtifact obj) start = if ∀ n ∈ names, (at_name n).platforms ≠ none then
      some (names.foldl (fun sorted n => JsObject.set sorted n { at_name n with
        platforms := some (Collation.sortUnits ((at_name n).platforms.getD [])) }) start)
    else none := by
  induction names generalizing start with
  | nil => rfl
  | cons n names ih =>
    rw [List.forall_mem_cons] at found
    rw [List.foldlM_cons, sortArtifact, found.1]
    simp only [List.forall_mem_cons, List.foldl_cons]
    cases given : (at_name n).platforms with
    | none => simp
    | some platforms =>
      simp only [Option.map_some, Option.bind_eq_bind, Option.bind_some, ne_eq, reduceCtorEq, not_false_eq_true,
        true_and, Option.getD_some]
      exact ih found.2 _

/-- What the kiosk makes of a manifest with artifacts. -/
theorem canonicalizeManifest_eq (sign : List UInt8 → List UInt8) (given : m.artifacts = some artifacts) :
    canonicalizeManifest (received (generate sign m)) =
      if ∀ n ∈ artifacts.keys, (artifactAt artifacts n).platforms ≠ none then
        some (stringify (manifestDoc m artifacts (kioskOrder artifacts.keys) Collation.sortUnits))
      else none := by
  have obj : (received (generate sign m)).artifacts = some ((Collation.sortBytes artifacts.keys).map fun name =>
      (name, receivedArtifact (artifactAt artifacts name))) := by
    show m.artifacts.map _ = _
    rw [given, Option.map_some, received_artifacts]
  have found : ∀ n ∈ Collation.sortUnits artifacts.keys,
      JsObject.get? ((Collation.sortBytes artifacts.keys).map fun name =>
        (name, receivedArtifact (artifactAt artifacts name))) n = some (receivedArtifact (artifactAt artifacts n)) := by
    intro n hn
    have there : n ∈ Collation.sortBytes artifacts.keys := Collation.mem_sortBy.mpr (Collation.mem_sortBy.mp hn)
    rw [JsObject.get?_map, if_pos there]
  have nodup : (Collation.sortUnits artifacts.keys).Nodup :=
    (Collation.perm_sortBy _ _).nodup_iff.mpr artifacts.keys_nodup
  have same : (∀ n ∈ Collation.sortUnits artifacts.keys, (receivedArtifact (artifactAt artifacts n)).platforms ≠ none) ↔
      ∀ n ∈ artifacts.keys, (artifactAt artifacts n).platforms ≠ none :=
    forall_congr' fun n => imp_congr_left Collation.mem_sortBy
  rw [canonicalizeManifest, obj, Option.bind_some, loop_order, foldlM_sortArtifact found, if_congr same rfl rfl]
  split
  · rw [JsObject.foldl_set _ nodup, Option.map_some]
    simp only [artifactsDoc, JsObject.entries_map, List.map_map]
    rfl
  · rfl

/-- The texts are the same exactly if the documents are, and what they have of strings is plain. -/
theorem texts_eq_iff {names names' : List String} {order order' : List String → List String} :
    stringify (manifestDoc m artifacts names order) = UpdateServer.marshal (manifestDoc m artifacts names' order') ↔
      manifestDoc m artifacts names' order' = manifestDoc m artifacts names order ∧
        Json.allStrings (Json.Alike marshalByNumber stringifyByNumber) (manifestDoc m artifacts names' order') := by
  have numbers (names : List String) (order : List String → List String) :
      Json.allNumbers Json.Numeric (manifestDoc m artifacts names order) := by
    have docs : Json.allNumbersOf Json.Numeric (names.map fun name => (name, artifactDoc (artifactAt artifacts name)
        (order ((artifactAt artifacts name).platforms.getD [])))) := by
      rw [Json.allNumbersOf_iff]
      intro f hf
      obtain ⟨n, -, rfl⟩ := List.mem_map.mp hf
      have strings (l : List String) : Json.allNumbersIn Json.Numeric (l.map .string) := by
        rw [Json.allNumbersIn_iff]
        intro x hx
        obtain ⟨s, -, rfl⟩ := List.mem_map.mp hx
        rfl
      simp [artifactDoc, Json.allNumbers, Json.allNumbersOf, strings]
    simp [manifestDoc, Json.allNumbers, Json.allNumbersOf, docs, UpdateServer.Rollout.doc, UpdateServer.SafeInt.doc,
      Json.numeric_format]
  rw [eq_comm, UpdateServer.marshal, stringify, String.ofList_inj,
    Json.write_eq_iff short_marshal short_stringify (numbers _ _) (numbers _ _)]

/-- The keys of the two documents. -/
def fieldNames : List String :=
  ["version", "channel", "releasedAt", "artifacts", "rollout", "url", "checksum", "platforms", "strategy",
    "maxConcurrent", "healthCheckSeconds"]

theorem alike_fieldNames : ∀ name ∈ fieldNames, Json.Alike marshalByNumber stringifyByNumber name = true := by decide

theorem alike_artifactDoc {a : UpdateServer.Artifact} {platforms : List String} :
    Json.allStrings (Json.Alike marshalByNumber stringifyByNumber) (artifactDoc a platforms) ↔
      Plain a.url ∧ Plain a.checksum ∧ ∀ p ∈ platforms, Plain p := by
  have strings : Json.allStringsIn (Json.Alike marshalByNumber stringifyByNumber) (platforms.map .string) ↔
      ∀ p ∈ platforms, Plain p := by
    rw [Json.allStringsIn_iff, List.forall_mem_map]
    exact forall₂_congr fun p _ => alike_iff
  have name (n : String) (h : n ∈ fieldNames) := alike_fieldNames n h
  simp only [artifactDoc, Json.allStrings, Json.allStringsOf, name "url" (by decide), name "checksum" (by decide),
    name "platforms" (by decide), Bool.true_and, Bool.and_true, Bool.and_eq_true, alike_iff, strings]

theorem alike_manifestDoc {names : List String} {order : List String → List String} :
    Json.allStrings (Json.Alike marshalByNumber stringifyByNumber) (manifestDoc m artifacts names order) ↔
      (Plain m.version ∧ Plain m.channel ∧ Plain m.releasedAt ∧ Plain m.rollout.strategy) ∧
        ∀ n ∈ names, Plain n ∧ Plain (artifactAt artifacts n).url ∧ Plain (artifactAt artifacts n).checksum ∧
          ∀ p ∈ order ((artifactAt artifacts n).platforms.getD []), Plain p := by
  have each : Json.allStringsOf (Json.Alike marshalByNumber stringifyByNumber) (names.map fun name =>
      (name, artifactDoc (artifactAt artifacts name) (order ((artifactAt artifacts name).platforms.getD [])))) ↔
        ∀ n ∈ names, Plain n ∧ Plain (artifactAt artifacts n).url ∧ Plain (artifactAt artifacts n).checksum ∧
          ∀ p ∈ order ((artifactAt artifacts n).platforms.getD []), Plain p := by
    rw [Json.allStringsOf_iff, List.forall_mem_map]
    exact forall₂_congr fun n _ => and_congr alike_iff alike_artifactDoc
  have name (n : String) (h : n ∈ fieldNames) := alike_fieldNames n h
  simp only [manifestDoc, UpdateServer.Rollout.doc, UpdateServer.SafeInt.doc, Json.allStrings, Json.allStringsOf,
    name "version" (by decide), name "channel" (by decide), name "releasedAt" (by decide),
    name "artifacts" (by decide), name "rollout" (by decide), name "strategy" (by decide),
    name "maxConcurrent" (by decide), name "healthCheckSeconds" (by decide), Bool.true_and, Bool.and_true,
    Bool.and_eq_true, alike_iff, each]
  tauto

/-- The documents are the same exactly if names and platforms are in one order. -/
theorem docs_eq_iff {names names' : List String} {order order' : List String → List String} :
    manifestDoc m artifacts names order = manifestDoc m artifacts names' order' ↔
      names = names' ∧ ∀ n ∈ names, order ((artifactAt artifacts n).platforms.getD []) =
        order' ((artifactAt artifacts n).platforms.getD []) := by
  have strings (l l' : List String) : l.map Json.string = l'.map Json.string ↔ l = l' :=
    (List.map_injective_iff.mpr fun _ _ => Json.string.inj).eq_iff
  simp only [manifestDoc, Json.object.injEq, List.cons.injEq, Prod.mk.injEq, true_and, and_true]
  constructor
  · intro h
    have firsts := congrArg (List.map Prod.fst) h
    simp only [List.map_map, Function.comp_def, List.map_id'] at firsts
    subst firsts
    refine ⟨rfl, fun n hn => ?_⟩
    have docs := List.map_inj_left.mp h n hn
    simpa [artifactDoc, strings] using docs
  · rintro ⟨rfl, orders⟩
    refine List.map_congr_left fun n hn => ?_
    rw [orders n hn]

/-- What is asked of each artifact, by its name. -/
theorem forall_lookup {P : String → UpdateServer.Artifact → Prop} :
    (∀ name a, artifacts.lookup name = some a → P name a) ↔ ∀ n ∈ artifacts.keys, P n (artifactAt artifacts n) := by
  constructor
  · intro h n hn
    obtain ⟨a, found⟩ := Option.isSome_iff_exists.mp (AList.lookup_isSome.mpr (AList.mem_keys.mpr hn))
    rw [artifactAt, found]
    exact h n a found
  · intro h name a found
    have there : name ∈ artifacts.keys := AList.mem_keys.mp (AList.lookup_isSome.mp (found ▸ rfl))
    have each := h name there
    rwa [artifactAt, found] at each

theorem bytes_iff (sign : List UInt8 → List UInt8) (m : UpdateServer.Manifest) :
    (canonicalizeManifest (received (generate sign m))).map Bytes.utf8 = some (canonicalBytes m) ↔ Agrees m := by
  cases given : m.artifacts with
  | none =>
    have throws : canonicalizeManifest (received (generate sign m)) = none := by
      have none : (received (generate sign m)).artifacts = none := by
        show m.artifacts.map _ = none
        rw [given, Option.map_none]
      rw [canonicalizeManifest, none, Option.bind_none]
    rw [throws]
    refine ⟨fun h => (by cases h), fun h => ?_⟩
    obtain ⟨_, some, -⟩ := h.artifacts
    cases given.symm.trans some
  | some artifacts =>
    have asked : Agrees m ↔ (kioskOrder artifacts.keys = Collation.sortBytes artifacts.keys ∧
        ∀ n ∈ artifacts.keys, SortedAlike (artifactAt artifacts n) ∧ Plain n ∧ Plain (artifactAt artifacts n).url ∧
          Plain (artifactAt artifacts n).checksum ∧
            ∀ platforms ∈ (artifactAt artifacts n).platforms, ∀ p ∈ platforms, Plain p) ∧
        Plain m.version ∧ Plain m.channel ∧ Plain m.releasedAt ∧ Plain m.rollout.strategy := by
      constructor
      · rintro ⟨⟨_, some, order, each⟩, version, channel, releasedAt, strategy⟩
        cases given.symm.trans some
        exact ⟨⟨order, forall_lookup.mp each⟩, version, channel, releasedAt, strategy⟩
      · rintro ⟨⟨order, each⟩, version, channel, releasedAt, strategy⟩
        exact ⟨⟨artifacts, given, order, forall_lookup.mpr each⟩, version, channel, releasedAt, strategy⟩
    rw [asked, canonicalizeManifest_eq sign given, canonicalBytes_eq, given, Option.getD_some]
    split
    · rename_i all
      rw [Option.map_some, Option.some_inj, Bytes.utf8_inj, texts_eq_iff, docs_eq_iff, alike_manifestDoc]
      have sorted (n : String) (hn : n ∈ artifacts.keys) : SortedAlike (artifactAt artifacts n) ↔
          Collation.sortBytes ((artifactAt artifacts n).platforms.getD []) =
            Collation.sortUnits ((artifactAt artifacts n).platforms.getD []) := by
        obtain ⟨platforms, some⟩ := Option.ne_none_iff_exists'.mp (all n hn)
        rw [some, Option.getD_some]
        refine ⟨fun h => (h.order platforms some).symm, fun same => ⟨all n hn, fun ps hps => ?_⟩⟩
        cases some.symm.trans hps
        exact same.symm
      have plain (n : String) (hn : n ∈ artifacts.keys) :
          (∀ p ∈ Collation.sortBytes ((artifactAt artifacts n).platforms.getD []), Plain p) ↔
            ∀ platforms ∈ (artifactAt artifacts n).platforms, ∀ p ∈ platforms, Plain p := by
        obtain ⟨platforms, some⟩ := Option.ne_none_iff_exists'.mp (all n hn)
        rw [some, Option.getD_some]
        refine ⟨fun h ps hps p hp => ?_, fun h p hp => h platforms rfl p (Collation.mem_sortBy.mp hp)⟩
        cases hps
        exact h p (Collation.mem_sortBy.mpr hp)
      constructor
      · rintro ⟨⟨order, orders⟩, texts, strings⟩
        refine ⟨⟨order.symm, fun n hn => ?_⟩, texts⟩
        have there : n ∈ Collation.sortBytes artifacts.keys := Collation.mem_sortBy.mpr hn
        obtain ⟨name, url, checksum, platforms⟩ := strings n there
        exact ⟨(sorted n hn).mpr (orders n there), name, url, checksum, (plain n hn).mp platforms⟩
      · rintro ⟨⟨order, each⟩, texts⟩
        refine ⟨⟨order.symm, fun n hn => ?_⟩, texts, fun n hn => ?_⟩
        · exact (sorted n (Collation.mem_sortBy.mp hn)).mp (each n (Collation.mem_sortBy.mp hn)).1
        · obtain ⟨-, name, url, checksum, platforms⟩ := each n (Collation.mem_sortBy.mp hn)
          exact ⟨name, url, checksum, (plain n (Collation.mem_sortBy.mp hn)).mpr platforms⟩
    · rename_i missing
      refine ⟨fun h => (by cases h), fun h => absurd (fun n hn => ?_) missing⟩
      exact (h.1.2 n hn).1.given

end

/-- **The server and the kiosk sign the same bytes exactly if a manifest is agreeable.** The kiosk's text of what the
server sends is the server's own, byte for byte, if and only if nothing in the manifest is nil, no text of it has one of
the five characters that only the server writes by number, no artifact is named `__proto__`, and names and platforms are
in one order on both sides. Whatever the server signs then verifies. -/
theorem same_bytes_iff (sign : List UInt8 → List UInt8) (m : UpdateServer.Manifest) :
    ((canonicalizeManifest (received (generate sign m))).map Bytes.utf8 = some (canonicalBytes m) ↔ Agrees m) ∧
      ∀ (crypto : Crypto) (publicKey : List UInt8),
        (∀ signature, crypto.atob (String.ofList (Json.base64 signature)) = some signature) →
        (∀ message, crypto.verify (sign message) message publicKey = true) →
        Agrees m → verifyManifestSignature crypto (received (generate sign m)) publicKey = true := by
  refine ⟨bytes_iff sign m, fun crypto publicKey atob verify agrees => ?_⟩
  obtain ⟨canonical, text, bytes⟩ := Option.map_eq_some_iff.mp ((bytes_iff sign m).mpr agrees)
  have signature : crypto.atob (received (generate sign m)).signature = some (sign (canonicalBytes m)) := atob _
  rw [verifyManifestSignature, text, signature]
  simp only [bytes, verify]

namespace Release

/-- A manifest with no artifacts, of a channel that has an ampersand in its name. -/
def channel : UpdateServer.Manifest :=
  ⟨"v1.2.0", "beta & edge", "2026-01-01T00:00:00Z", some ∅, ⟨"rolling", ⟨5, by decide⟩, ⟨60, by decide⟩⟩⟩

theorem bytes_differ :
    (canonicalizeManifest (received (generate id channel))).map Bytes.utf8 ≠ some (canonicalBytes channel) := by
  intro same
  have plain := ((bytes_iff id channel).mp same).channel
  exact absurd (plain '&' (by decide)) (by decide)

example : kioskOrder ["9", "10"] = ["9", "10"] ∧ Collation.sortBytes ["9", "10"] = ["10", "9"] := by decide

end Release

end Kiosk.Updater
