import Mathlib.Algebra.Ring.Int.Defs
import Mathlib.Data.Int.Order.Basic
import Mathlib.Data.List.Infix
import Mathlib.Data.List.Lex
import AstraSystem.Lib.Decimal
import AstraSystem.Lib.Runs

/-!
# The update agent's choice of a release (`check.go`, `checkAndUpdate`)

The agent applies the first listed release of its channel that is newer than `0.0.0`. It does not remember what it has
applied, and it does not compare the releases with one another.
-/

namespace AstraUpdater

open Runs (run Always EachStep)

structure GitHubAsset where
  name : String
  contentType : String := ""
  size : ℤ := 0
  browserDownloadURL : String := ""
  deriving DecidableEq

structure GitHubRelease where
  tagName : String
  prerelease : Bool := false
  assets : List GitHubAsset := []
  deriving DecidableEq

structure ReleaseInfo where
  tagName : String
  version : String
  channel : String := "stable"
  assets : List GitHubAsset := []
  deriving DecidableEq

/-! ## Versions -/

/-- What `fmt` skips before a number. -/
def isSpace (c : Char) : Bool :=
  (9 ≤ c.toNat && c.toNat ≤ 13) || (0x2000 ≤ c.toNat && c.toNat ≤ 0x200a) ||
    [0x20, 0x85, 0xa0, 0x1680, 0x2028, 0x2029, 0x202f, 0x205f, 0x3000].contains c.toNat

/-- `fmt.Sscanf` with `%d` into a zero: what follows the digits is left, and where there is no number that fits into
64 bits the zero stays. -/
def scanInt (part : List Char) : ℤ :=
  let number := part.dropWhile fun c => c != '\n' && isSpace c
  let (sign, digits) : ℤ × List Char :=
    match number with
    | '-' :: digits => (-1, digits)
    | '+' :: digits => (1, digits)
    | digits => (1, digits)
  match Decimal.parseDigits (digits.takeWhile Char.isDigit) with
  | none => 0
  | some n => if -2 ^ 63 ≤ sign * n ∧ sign * n < 2 ^ 63 then sign * n else 0

def parseSemver (v : String) : List ℤ :=
  let parts := v.toList.splitOn '.'
  [0, 1, 2].map fun i => (parts[i]?).elim 0 scanInt

def compareParts : List ℤ → List ℤ → ℤ
  | x :: xs, y :: ys => if x ≠ y then (if x > y then 1 else -1) else compareParts xs ys
  | _, _ => 0

def compareVersions (a b : String) : ℤ := compareParts (parseSemver a) (parseSemver b)

theorem compareParts_pos {xs ys : List ℤ} (length : xs.length = ys.length) :
    0 < compareParts xs ys ↔ ys < xs := by
  induction xs generalizing ys with
  | nil =>
    cases ys with
    | nil => simp [compareParts]
    | cons y ys => cases length
  | cons x xs ih =>
    cases ys with
    | nil => cases length
    | cons y ys =>
      rw [compareParts, List.cons_lt_cons_iff]
      have ih := ih (Nat.succ.inj length)
      by_cases same : x = y
      · rw [if_neg (not_not_intro same), ih]
        simp [same]
      · rw [if_pos same]
        split <;> omega

theorem compareVersions_pos {a b : String} : 0 < compareVersions a b ↔ parseSemver b < parseSemver a :=
  compareParts_pos rfl

/-! ## Releases -/

/-- What stands before and behind the last separator, unless that is the first character. -/
def cutLast (sep : Char) (cs : List Char) : Option (List Char × List Char) :=
  match cs.reverse.dropWhile (· ≠ sep) with
  | _ :: c :: front => some ((c :: front).reverse, (cs.reverse.takeWhile (· ≠ sep)).reverse)
  | _ => none

def trimV : List Char → List Char
  | 'v' :: cs => cs
  | cs => cs

def parseRelease (r : GitHubRelease) : ReleaseInfo :=
  let tag := trimV r.tagName.toList
  match cutLast '-' tag with
  | some (version, suffix) =>
    if String.ofList suffix ∈ ["stable", "beta", "canary"] then
      { tagName := r.tagName, channel := String.ofList suffix, version := String.ofList version }
    else { tagName := r.tagName, version := String.ofList tag }
  | none => { tagName := r.tagName, version := String.ofList tag }

/-- No letter outside of ASCII becomes one of those looked for. -/
def findInstallerAsset (assets : List GitHubAsset) : Option GitHubAsset :=
  assets.find? fun a =>
    let name := a.name.toList.map Char.toLower
    decide ("astra".toList <:+: name) && decide (".exe".toList <:+ name)

/-- One iteration of the loop. -/
def offer (channel currentVersion : String) (r : GitHubRelease) : Option ReleaseInfo :=
  let info := parseRelease r
  if info.channel ≠ channel then none
  else if compareVersions info.version currentVersion ≤ 0 then none
  else (findInstallerAsset r.assets).map fun asset => { info with assets := [asset] }

def latestRelease (channel currentVersion : String) (releases : List GitHubRelease) : Option ReleaseInfo :=
  releases.findSome? (offer channel currentVersion)

/-! ## The agent -/

/-- What a check meets: the list, unless the request fails, and whether `UpdateDockerStack` succeeds. -/
structure Check where
  fetched : Option (List GitHubRelease)
  updated : Bool := true

/-- A release that `UpdateDockerStack` has succeeded for, and the list it was taken from. -/
structure Applied where
  info : ReleaseInfo
  listed : List GitHubRelease
  deriving DecidableEq

/-- The agent has no state; what it has applied is kept here for the record. -/
def checkAndUpdate (channel : String) (applied : List Applied) (c : Check) : List Applied :=
  match c.fetched with
  | none => applied
  | some releases =>
    match latestRelease channel "0.0.0" releases with
    | none => applied
    | some release => if c.updated then applied ++ [⟨release, releases⟩] else applied

def GitHubRelease.version (r : GitHubRelease) : List ℤ := parseSemver (parseRelease r).version

def Applied.version (a : Applied) : List ℤ := parseSemver a.info.version

def hasInstaller (r : GitHubRelease) : Prop := (findInstallerAsset r.assets).isSome

/-- Between the hyphens and behind the last one. -/
def suffixes (tag : String) : List String := ((tag.toList.splitOn '-').tail).map String.ofList

/-- A stable release is a full one, without a suffix or with its own; of the others the last suffix tells. -/
def OfChannel (channel : String) (r : GitHubRelease) : Prop :=
  if channel = "stable" then (∀ s ∈ suffixes r.tagName, s = "stable") ∧ r.prerelease = false
  else (suffixes r.tagName).getLast? = some channel

/-- The tag is of the channel, and nothing on the list is newer there. -/
structure Applied.Newest (channel : String) (a : Applied) : Prop where
  ofChannel : ∀ r ∈ a.listed, r.tagName = a.info.tagName → OfChannel channel r
  newest : ∀ r ∈ a.listed, OfChannel channel r → hasInstaller r → r.version ≤ a.version

structure Forward (channel : String) (applied : List Applied) : Prop where
  increasing : applied.Pairwise fun a b => a.version < b.version
  newest : ∀ a ∈ applied, a.Newest channel

/-- Where nothing is newer than what was applied last, nothing is applied. -/
def Idle (channel : String) (applied : List Applied) (c : Check) : Prop :=
  ∀ last, applied.getLast? = some last →
    (∀ releases, c.fetched = some releases → ∀ r ∈ releases, OfChannel channel r → hasInstaller r →
      r.version ≤ last.version) →
    checkAndUpdate channel applied c = applied

/-- What the loop stops at. -/
structure Passes (channel : String) (r : GitHubRelease) : Prop where
  channel : (parseRelease r).channel = channel
  version : parseSemver "0.0.0" < r.version
  hasInstaller : hasInstaller r

/-- The list is in such an order, and its tags are such, that the first release to pass is a good choice. -/
def Orderly (channel : String) (applied : List Applied) (c : Check) : Prop :=
  c.updated = true → ∀ before r after, c.fetched = some (before ++ r :: after) → Passes channel r →
    (∀ x ∈ before, ¬ Passes channel x) →
      (∀ x ∈ before ++ r :: after, x.tagName = r.tagName → OfChannel channel x) ∧
      (∀ x ∈ before ++ r :: after, OfChannel channel x → hasInstaller x → x.version ≤ r.version) ∧
      ∀ last, applied.getLast? = some last → last.version < r.version

section
variable {channel : String} {r : GitHubRelease} {releases : List GitHubRelease} {info : ReleaseInfo}
  {applied : List Applied} {c : Check}

@[simp] theorem parseRelease_tagName (r : GitHubRelease) : (parseRelease r).tagName = r.tagName := by
  simp only [parseRelease]
  split
  · split <;> rfl
  · rfl

theorem offer_eq_some : offer channel "0.0.0" r = some info ↔
    Passes channel r ∧ ∃ asset, findInstallerAsset r.assets = some asset ∧
      info = { parseRelease r with assets := [asset] } := by
  simp only [offer]
  constructor
  · intro h
    split at h
    · cases h
    · rename_i same
      split at h
      · cases h
      · rename_i newer
        obtain ⟨asset, found, rfl⟩ := Option.map_eq_some_iff.mp h
        exact ⟨⟨not_ne_iff.mp same, compareVersions_pos.mp (Int.not_le.mp newer), Option.isSome_of_mem found⟩,
          asset, found, rfl⟩
  · rintro ⟨passes, asset, found, rfl⟩
    have newer := compareVersions_pos.mpr passes.version
    rw [if_neg (not_ne_iff.mpr passes.channel), if_neg (Int.not_le.mpr newer), found]
    rfl

theorem offer_eq_none : offer channel "0.0.0" r = none ↔ ¬ Passes channel r := by
  constructor
  · intro h passes
    obtain ⟨asset, found⟩ := Option.isSome_iff_exists.mp passes.hasInstaller
    have some := offer_eq_some.mpr ⟨passes, asset, found, rfl⟩
    rw [h] at some
    cases some
  · intro h
    cases offered : offer channel "0.0.0" r with
    | none => rfl
    | some info => exact absurd (offer_eq_some.mp offered).1 h

/-- The first release on the list that passes. -/
theorem latestRelease_eq_some (h : latestRelease channel "0.0.0" releases = some info) :
    ∃ before r after, releases = before ++ r :: after ∧ Passes channel r ∧ (∀ x ∈ before, ¬ Passes channel x) ∧
      info.tagName = r.tagName ∧ parseSemver info.version = r.version := by
  obtain ⟨before, r, after, rfl, offered, first⟩ := List.findSome?_eq_some_iff.mp h
  obtain ⟨passes, asset, -, rfl⟩ := offer_eq_some.mp offered
  exact ⟨before, r, after, rfl, passes, fun x mem => offer_eq_none.mp (first x mem), parseRelease_tagName r, rfl⟩

theorem latestRelease_first {before : List GitHubRelease} (after : List GitHubRelease)
    (passes : Passes channel r) (first : ∀ x ∈ before, ¬ Passes channel x) :
    ∃ info, latestRelease channel "0.0.0" (before ++ r :: after) = some info ∧
      info.tagName = r.tagName ∧ parseSemver info.version = r.version := by
  obtain ⟨asset, found⟩ := Option.isSome_iff_exists.mp passes.hasInstaller
  have offered := offer_eq_some.mpr ⟨passes, asset, found, rfl⟩
  refine ⟨_, List.findSome?_eq_some_iff.mpr ⟨before, r, after, rfl, offered, ?_⟩, parseRelease_tagName r, rfl⟩
  exact fun x mem => offer_eq_none.mpr (first x mem)

/-- A check leaves the record, or adds the first release on the list that passes. -/
theorem checkAndUpdate_cases (channel : String) (applied : List Applied) (c : Check) :
    checkAndUpdate channel applied c = applied ∨
    ∃ before r after info, c.fetched = some (before ++ r :: after) ∧ c.updated = true ∧ Passes channel r ∧
      (∀ x ∈ before, ¬ Passes channel x) ∧ info.tagName = r.tagName ∧ parseSemver info.version = r.version ∧
      checkAndUpdate channel applied c = applied ++ [⟨info, before ++ r :: after⟩] := by
  unfold checkAndUpdate
  split
  · exact .inl rfl
  · rename_i releases fetched
    split
    · exact .inl rfl
    · rename_i info found
      split
      · rename_i updated
        obtain ⟨before, r, after, rfl, passes, first, tag, version⟩ := latestRelease_eq_some found
        exact .inr ⟨before, r, after, info, fetched, updated, passes, first, tag, version, rfl⟩
      · exact .inl rfl

theorem pairwise_concat {applied : List Applied} {a : Applied}
    (h : applied.Pairwise fun a b => a.version < b.version)
    (last : ∀ b, applied.getLast? = some b → b.version < a.version) :
    (applied ++ [a]).Pairwise fun a b => a.version < b.version := by
  rw [List.pairwise_append]
  refine ⟨h, List.pairwise_singleton _ _, fun b mem x hx => ?_⟩
  cases List.mem_singleton.mp hx
  induction applied using List.reverseRecOn with
  | nil => cases mem
  | append_singleton front b' _ =>
    have newer := last b' List.getLast?_concat
    obtain old | same := List.mem_append.mp mem
    · exact List.lt_trans ((List.pairwise_append.mp h).2.2 b old b' (List.mem_singleton_self b')) newer
    · cases List.mem_singleton.mp same
      exact newer

theorem Forward.step (h : Forward channel applied) (orderly : Orderly channel applied c) :
    Forward channel (checkAndUpdate channel applied c) := by
  obtain kept | ⟨before, r, after, info, fetched, updated, passes, first, tag, version, added⟩ :=
    checkAndUpdate_cases channel applied c
  · rw [kept]
    exact h
  · obtain ⟨ofChannel, newest, newer⟩ := orderly updated before r after fetched passes first
    rw [added]
    constructor
    · refine pairwise_concat h.increasing fun last eq => ?_
      rw [Applied.version, Applied.version, version]
      exact newer last eq
    · intro a mem
      obtain old | new := List.mem_append.mp mem
      · exact h.newest a old
      · cases List.mem_singleton.mp new
        constructor
        · exact fun x mem same => ofChannel x mem (same.trans tag)
        · intro x mem of has
          rw [Applied.version, version]
          exact newest x mem of has

theorem orderly_of_forward (h : Forward channel (checkAndUpdate channel applied c)) : Orderly channel applied c := by
  intro updated before r after fetched passes first
  obtain ⟨info, found, tag, version⟩ := latestRelease_first after passes first
  have added : checkAndUpdate channel applied c = applied ++ [⟨info, before ++ r :: after⟩] := by
    rw [checkAndUpdate, fetched]
    simp only [found, updated, if_true]
  rw [added] at h
  obtain ⟨ofChannel, newest⟩ := h.newest _ (List.mem_append_right _ (List.mem_singleton_self _))
  have increasing := (List.pairwise_append.mp h.increasing).2.2
  refine ⟨fun x mem same => ofChannel x mem (same.trans tag.symm), ?_, ?_⟩
  · intro x mem of has
    have le := newest x mem of has
    rw [Applied.version, version] at le
    exact le
  · intro last eq
    have lt := increasing last (List.mem_of_getLast? eq) _ (List.mem_singleton_self _)
    rw [Applied.version, Applied.version, version] at lt
    exact lt

theorem idle_of_forward (h : Forward channel (checkAndUpdate channel applied c)) : Idle channel applied c := by
  intro last eq old
  obtain kept | ⟨before, r, after, info, fetched, updated, passes, first, tag, version, added⟩ :=
    checkAndUpdate_cases channel applied c
  · exact kept
  · obtain ⟨ofChannel, -, newer⟩ := orderly_of_forward h updated before r after fetched passes first
    have mem : r ∈ before ++ r :: after := List.mem_append_right _ List.mem_cons_self
    have le := old _ fetched r mem (ofChannel r mem rfl) passes.hasInstaller
    exact absurd (newer last eq) (not_lt.mpr le)

end

/-- **The agent only moves forward exactly in runs whose successful checks each find first what is newer than the last
release applied, of the channel and the newest there.** -/
theorem forward_iff (channel : String) (checks : List Check) :
    (Always (checkAndUpdate channel) (Forward channel) [] checks ∧
        EachStep (checkAndUpdate channel) (Idle channel) [] checks) ↔
      EachStep (checkAndUpdate channel) (Orderly channel) [] checks := by
  have start : Forward channel [] := ⟨List.Pairwise.nil, fun _ mem => by cases mem⟩
  have step (applied : List Applied) (c : Check) (h : Forward channel applied) (orderly : Orderly channel applied c) :
      Forward channel (checkAndUpdate channel applied c) := h.step orderly
  have always := Runs.always_iff_eachStep (fun _ h => h) step (fun _ _ _ h => orderly_of_forward h) start checks
  refine ⟨fun h => always.mp h.1, fun h => ⟨always.mpr h, ?_⟩⟩
  exact Runs.eachStep_of_eachStep (fun applied c h orderly => idle_of_forward (step applied c h orderly)) step start h

/-- The same list at two checks. -/
def listedTwice : List Check :=
  let check : Check := { fetched := some [{ tagName := "v1.2.0", assets := [{ name := "Astra-System-Setup.exe" }] }] }
  [check, check]

theorem applied_again : ¬ (Always (checkAndUpdate "stable") (Forward "stable") [] listedTwice ∧
    EachStep (checkAndUpdate "stable") (Idle "stable") [] listedTwice) := by
  rintro ⟨h, -⟩
  have increasing := (Runs.always_last h).increasing
  revert increasing
  decide

end AstraUpdater
