import Mathlib.Data.List.Infix
import NastyEngine.Lib.Result
import NastyEngine.Rust.Text

/-! An NFS share is written to a file of its own, with a number for the filesystem that is a hash of the share's id. -/

namespace NastyEngine.Exports
open Lib Rust List

structure NfsClient where
  host : String
  options : String
  deriving DecidableEq

structure NfsShare where
  id : String
  path : String
  clients : List NfsClient
  enabled : Bool := true

inductive NfsError where
  | invalidClient (text : String)
  deriving DecidableEq

def isHostChar (c : Char) : Bool :=
  !isWhitespace c && !isControl c && c ∉ ['(', ')', '"', Char.ofNat 39, ';', ',', '\\']

def isOptionChar (c : Char) : Bool := isAsciiAlphanumeric c || c ∈ ['_', '-', '=', ',', '/', '.', ':', '@']

def validateNfsHost (host : String) : Except NfsError Unit := do
  require (host ≠ "") (.invalidClient "host is empty")
  require (host.toList.all isHostChar = true) (.invalidClient ("host '" ++ host ++ "' contains invalid characters"))

def validateNfsOptions (options : String) : Except NfsError Unit :=
  require (options.toList.all isOptionChar = true)
    (.invalidClient ("options '" ++ options ++ "' contain invalid characters"))

def validateNfsClient (client : NfsClient) : Except NfsError Unit := do
  validateNfsHost client.host
  validateNfsOptions client.options

def validateExportPath (path : String) : Except NfsError Unit :=
  require (path.toList.all (fun c => !isControl c && c ∉ ['"', Char.ofNat 39, '\\']) = true)
    (.invalidClient ("path '" ++ path ++ "' contains invalid characters for an exports file"))

def stableFsid (id : String) : UInt32 :=
  let hash := (id.toList.flatMap String.utf8EncodeChar).foldl (fun hash b => hash * 33 + b.toUInt32) 5381
  hash % 0x7FFFFFFE + 1

def contains (text part : String) : Bool := part.toList <:+: text.toList

def exportOptions (fsid : UInt32) (options : String) : String :=
  let opts := if contains options "fsid=" then options else options ++ ",fsid=" ++ toString fsid.toNat
  if contains opts "insecure" || contains opts "secure" then opts else opts ++ ",insecure"

def NfsShare.exported (share : NfsShare) : List NfsClient :=
  share.clients.map fun c => { c with options := exportOptions (stableFsid share.id) c.options }

def renderExportFile (share : NfsShare) : Except NfsError String := do
  validateExportPath share.path
  share.clients.forM validateNfsClient
  return "# NASty share " ++ share.id ++ "\n" ++ share.path ++ "\t" ++
    " ".intercalate (share.exported.map fun c => c.host ++ "(" ++ c.options ++ ")") ++ "\n"

/-- What the file has after `write_export_file`: the file of a share that is disabled or whose path is gone is removed. -/
def writeExportFile (share : NfsShare) (pathExists : Bool) : Except NfsError (Option String) :=
  if !share.enabled || !pathExists then .ok none else (renderExportFile share).map some

def fsids (options : String) : List String :=
  (options.toList.splitOn ',').filterMap fun opt => stripStart "fsid=" (String.ofList opt)

/-- The options of a client as `exports(5)` has them, `host(options)`. -/
def clientOptions (client : List Char) : String :=
  String.ofList (((client.dropWhile (· ≠ '(')).drop 1).takeWhile (· ≠ ')'))

/-- The clients follow the last tab, with spaces between them. -/
def fileFsids (text : String) : List String :=
  let clients := (((text.toList.splitOn '\t').getLast?.getD []).takeWhile (· ≠ '\n')).splitOn ' '
  clients.flatMap fun client => fsids (clientOptions client)

/-- The values in the file of the share, where `exist` says which paths there are. -/
def NfsShare.fsids (exist : String → Bool) (share : NfsShare) : List String :=
  match writeExportFile share (exist share.path) with
  | .ok (some text) => fileFsids text
  | _ => []

def NfsShare.Written (exist : String → Bool) (share : NfsShare) : Prop :=
  share.clients ≠ [] ∧ ∃ text, writeExportFile share (exist share.path) = .ok (some text)

/-- The bytes of the id as the digits of a number with the base 33. -/
def idNumber (id : String) : Nat :=
  (id.toList.flatMap String.utf8EncodeChar).foldl (fun number b => number * 33 + b.toNat) 5381

theorem stableFsid_toNat (id : String) : (stableFsid id).toNat = idNumber id % 2 ^ 32 % 0x7FFFFFFE + 1 := by
  have folded (bytes : List UInt8) : ∀ (hash : UInt32) (number : Nat), hash.toNat = number % 2 ^ 32 →
      (bytes.foldl (fun hash b => hash * 33 + b.toUInt32) hash).toNat =
        bytes.foldl (fun number b => number * 33 + b.toNat) number % 2 ^ 32 := by
    induction bytes with
    | nil => exact fun _ _ eq => eq
    | cons b bytes ih =>
      intro hash number eq
      refine ih _ _ ?_
      simp [eq, Nat.add_mod, Nat.mul_mod]
  have start := folded (id.toList.flatMap String.utf8EncodeChar) 5381 5381 rfl
  have small : (idNumber id % 2 ^ 32) % 0x7FFFFFFE < 0x7FFFFFFE := Nat.mod_lt _ (by decide)
  rw [stableFsid, UInt32.toNat_add, UInt32.toNat_mod, start]
  simp only [UInt32.reduceToNat]
  rw [← idNumber]
  omega

variable {options : String} {shares : List NfsShare}

theorem infix_intercalate {sep part : List Char} {parts : List (List Char)} (mem : part ∈ parts) :
    part <:+: sep.intercalate parts := by
  induction parts with
  | nil => cases mem
  | cons first rest ih =>
    cases rest with
    | nil =>
      rw [mem_singleton.mp mem, intercalate_singleton]
    | cons second rest =>
      rw [intercalate_cons_cons]
      rcases mem_cons.mp mem with rfl | later
      · exact ((prefix_append _ _).trans (prefix_append _ _)).isInfix
      · exact (ih later).trans (suffix_append _ _).isInfix

theorem fsids_none (absent : contains options "fsid=" = false) : fsids options = [] := by
  refine filterMap_eq_nil_iff.mpr fun opt mem => if_neg fun begins => ?_
  have part : opt <:+: [','].intercalate (options.toList.splitOn ',') := infix_intercalate mem
  rw [startsWith, String.toList_ofList (l := opt), isPrefixOf_iff_prefix] at begins
  rw [intercalate_splitOn] at part
  rw [contains, decide_eq_false_iff_not] at absent
  exact absent (begins.isInfix.trans part)

theorem fsids_append (one two : String) : fsids (one ++ "," ++ two) = fsids one ++ fsids two := by
  rw [fsids, String.toList_append, String.toList_append, append_assoc]
  exact (congrArg _ (splitOn_append_cons_self ..)).trans filterMap_append

theorem isDigit_of_mem_toString {n : Nat} {c : Char} (mem : c ∈ (toString n).toList) : c.isDigit = true := by
  rw [show (toString n).toList = Nat.toDigits 10 n from Nat.toList_repr] at mem
  exact Nat.isDigit_of_mem_toDigits (by decide) (by decide) mem

theorem fsids_fsid (n : Nat) : fsids ("fsid=" ++ toString n) = [toString n] := by
  have whole : ("fsid=" ++ toString n).toList.splitOn ',' = [("fsid=" ++ toString n).toList] := by
    refine splitOn_eq_singleton fun mem => ?_
    rw [String.toList_append] at mem
    rcases mem_append.mp mem with mem | mem
    · exact absurd mem (by decide +kernel)
    · exact absurd (isDigit_of_mem_toString mem) (by decide)
  rw [fsids, whole, filterMap_cons, String.ofList_toList, stripStart_append]
  rfl

theorem fsids_exportOptions (fsid : UInt32) (absent : contains options "fsid=" = false) :
    fsids (exportOptions fsid options) = [toString fsid.toNat] := by
  have given : fsids (options ++ ",fsid=" ++ toString fsid.toNat) = [toString fsid.toNat] := by
    rw [show ",fsid=" = "," ++ "fsid=" from rfl, ← String.append_assoc, String.append_assoc, fsids_append,
      fsids_none absent, fsids_fsid]
    rfl
  unfold exportOptions
  simp only [absent, Bool.false_eq_true, if_false]
  split
  · exact given
  · rw [show ",insecure" = "," ++ "insecure" from rfl, ← String.append_assoc, fsids_append, given,
      show fsids "insecure" = [] by decide +kernel]
    rfl

def separators : List Char := [' ', '\t', '\n', '(', ')']

def Plain (text : String) : Prop := ∀ c ∈ text.toList, c ∉ separators

theorem Plain.append {one two : String} (first : Plain one) (second : Plain two) : Plain (one ++ two) := by
  unfold Plain
  rw [String.toList_append]
  exact forall_mem_append.mpr ⟨first, second⟩

theorem plain_of {p : Char → Bool} {text : String} (outside : separators.any p = false)
    (inside : ∀ c ∈ text.toList, p c = true) : Plain text :=
  fun c mem separates => any_eq_false.mp outside c separates (inside c mem)

theorem plain_exportOptions {fsid : UInt32} (valid : validateNfsOptions options = .ok ()) :
    Plain (exportOptions fsid options) := by
  have given : Plain options := plain_of (by decide) (all_eq_true.mp (require_ok valid))
  have digits : Plain (toString fsid.toNat) := plain_of (by decide) fun _ => isDigit_of_mem_toString
  have numbered : Plain (options ++ ",fsid=" ++ toString fsid.toNat) :=
    (given.append (by simp [Plain, separators])).append digits
  unfold exportOptions
  split <;> dsimp only <;> split
  · exact given
  · exact given.append (by simp [Plain, separators])
  · exact numbered
  · exact numbered.append (by simp [Plain, separators])

theorem plain_host {host : String} (valid : validateNfsHost host = .ok ()) : Plain host := by
  obtain ⟨_, _, valid⟩ := bind_ok valid
  exact plain_of (by decide) (all_eq_true.mp (require_ok valid))

def clientText (c : NfsClient) : List Char := c.host.toList ++ '(' :: c.options.toList ++ [')']

theorem clientOptions_clientText {c : NfsClient} (host : Plain c.host) (opts : Plain c.options) :
    clientOptions (clientText c) = c.options := by
  have before : ∀ x ∈ c.host.toList, decide (x ≠ '(') = true := fun x mem => decide_eq_true fun eq =>
    host x mem (eq ▸ by decide)
  have inside : ∀ x ∈ c.options.toList, decide (x ≠ ')') = true := fun x mem => decide_eq_true fun eq =>
    opts x mem (eq ▸ by decide)
  rw [clientOptions, clientText, append_assoc, dropWhile_append_of_pos before, cons_append,
    dropWhile_cons_of_neg (by decide), drop_succ_cons, drop_zero, takeWhile_append_of_pos inside]
  exact (congrArg String.ofList (append_nil _)).trans (String.ofList_toList)

theorem not_mem_clientText {c : NfsClient} (host : Plain c.host) (opts : Plain c.options) {x : Char}
    (blank : x ∈ [' ', '\t', '\n']) : x ∉ clientText c := by
  have separates : x ∈ separators := mem_append_left ['(', ')'] blank
  have others : x ≠ '(' ∧ x ≠ ')' := by
    simp only [mem_cons, not_mem_nil, or_false] at blank
    rcases blank with rfl | rfl | rfl <;> decide
  intro mem
  simp only [clientText, mem_append, mem_cons, not_mem_nil, or_false, others, false_or] at mem
  exact mem.elim (fun here => host x here separates) fun here => opts x here separates

theorem mem_intercalate {sep c : Char} {parts : List (List Char)} (mem : c ∈ [sep].intercalate parts) :
    c = sep ∨ ∃ part ∈ parts, c ∈ part := by
  induction parts with
  | nil => cases mem
  | cons first rest ih =>
    cases rest with
    | nil => exact .inr ⟨first, mem_cons_self, by simpa using mem⟩
    | cons second rest =>
      rw [intercalate_cons_cons, append_assoc, mem_append, mem_append, mem_singleton] at mem
      rcases mem with here | rfl | later
      · exact .inr ⟨first, mem_cons_self, here⟩
      · exact .inl rfl
      · exact (ih later).imp_right fun ⟨part, there, found⟩ => ⟨part, mem_cons_of_mem _ there, found⟩

/-- What is read from the file is what was given to the clients: no host and no options have a separator in them. -/
theorem fileFsids_render {share : NfsShare} {text : String} (rendered : renderExportFile share = .ok text) :
    fileFsids text = share.exported.flatMap fun c => Exports.fsids c.options := by
  obtain ⟨_, _, rendered⟩ := bind_ok rendered
  obtain ⟨_, valid, rendered⟩ := bind_ok rendered
  cases rendered
  have plain : ∀ c ∈ share.exported, Plain c.host ∧ Plain c.options := by
    intro c mem
    obtain ⟨given, listed, rfl⟩ := mem_map.mp mem
    obtain ⟨_, host, opts⟩ := bind_ok (forM_ok valid given listed)
    exact ⟨plain_host host, plain_exportOptions opts⟩
  have absent : ∀ x ∈ ['\t', '\n'], x ∉ [' '].intercalate (share.exported.map clientText) := by
    intro x blank mem
    rcases mem_intercalate mem with same | ⟨part, there, found⟩
    · exact absurd (same ▸ blank) (by decide)
    · obtain ⟨c, listed, rfl⟩ := mem_map.mp there
      obtain ⟨host, opts⟩ := plain c listed
      exact not_mem_clientText host opts (mem_cons_of_mem _ blank) found
  generalize line : [' '].intercalate (share.exported.map clientText) = clients at absent
  have whole : ("# NASty share " ++ share.id ++ "\n" ++ share.path ++ "\t" ++
      " ".intercalate (share.exported.map fun c => c.host ++ "(" ++ c.options ++ ")") ++ "\n").toList =
      ("# NASty share " ++ share.id ++ "\n" ++ share.path).toList ++ '\t' :: (clients ++ ['\n']) := by
    have texts : (share.exported.map fun c => c.host ++ "(" ++ c.options ++ ")").map String.toList =
        share.exported.map clientText := by
      simp [clientText]
    rw [String.toList_append, String.toList_append, String.toList_append, String.toList_intercalate, texts, ← line,
      append_assoc, append_assoc]
    rfl
  have tabless : '\t' ∉ clients ++ ['\n'] := by
    rw [mem_append, not_or]
    exact ⟨absent _ (by decide), by decide⟩
  have lined : (clients ++ ['\n']).takeWhile (· ≠ '\n') = clients := by
    have before : ∀ x ∈ clients, decide (x ≠ '\n') = true := fun x mem => decide_eq_true fun eq =>
      absent '\n' (by decide) (eq ▸ mem)
    rw [takeWhile_append_of_pos before]
    exact append_nil clients
  rw [fileFsids, whole, splitOn_append_cons_self, splitOn_eq_singleton tabless, getLast?_concat, Option.getD_some, lined,
    ← line]
  cases listed : share.exported with
  | nil => decide +kernel
  | cons first rest =>
    have pieces : ∀ l ∈ (first :: rest).map clientText, ' ' ∉ l := by
      intro l mem
      obtain ⟨c, there, rfl⟩ := mem_map.mp mem
      obtain ⟨host, opts⟩ := plain c (listed ▸ there)
      exact not_mem_clientText host opts (by decide)
    rw [splitOn_intercalate ' ' pieces (by simp), flatMap_map]
    refine flatMap_congr fun c mem => ?_
    obtain ⟨host, opts⟩ := plain c (listed ▸ mem)
    rw [clientOptions_clientText host opts]

/-- Shares without an `fsid` of their own are written with different ones exactly if their ids give different numbers. -/
theorem fsids_distinct_iff (exist : String → Bool)
    (implicit : ∀ share ∈ shares, ∀ c ∈ share.clients, contains c.options "fsid=" = false) :
    (shares.map (·.fsids exist)).Pairwise List.Disjoint ↔
      shares.Pairwise fun one two => ¬one.Written exist ∨ ¬two.Written exist ∨
        idNumber one.id % 2 ^ 32 % 0x7FFFFFFE ≠ idNumber two.id % 2 ^ 32 % 0x7FFFFFFE := by
  have written : ∀ share ∈ shares, ∀ n, n ∈ share.fsids exist ↔
      share.Written exist ∧ n = toString (stableFsid share.id).toNat := by
    intro share mem n
    have values : share.exported.flatMap (fun c => Exports.fsids c.options) =
        share.clients.map fun _ => toString (stableFsid share.id).toNat := by
      rw [NfsShare.exported, flatMap_map, map_eq_flatMap]
      exact flatMap_congr fun c there => fsids_exportOptions _ (implicit share mem c there)
    unfold NfsShare.fsids NfsShare.Written
    cases file : writeExportFile share (exist share.path) with
    | error e => simp
    | ok content =>
      cases content with
      | none => simp
      | some text =>
        have rendered : renderExportFile share = .ok text := by
          unfold writeExportFile at file
          split at file
          · cases file
          · cases eq : renderExportFile share with
            | error e =>
              rw [eq] at file
              cases file
            | ok other =>
              rw [eq] at file
              cases file
              rfl
        simp only [fileFsids_render rendered, values, map_const', mem_replicate, ne_eq, length_eq_zero_iff,
          Except.ok.injEq, Option.some.injEq, exists_eq', and_true]
  rw [pairwise_map]
  refine List.Pairwise.iff_of_mem fun {one two} mem mem' => ?_
  rw [disjoint_left]
  simp only [written one mem, written two mem', stableFsid_toNat]
  constructor
  · intro apart
    by_contra! both
    exact apart ⟨both.1, rfl⟩ ⟨both.2.1, by rw [both.2.2]⟩
  · rintro (none | none | differ) n ⟨some, rfl⟩ ⟨some', same⟩
    · exact none some
    · exact none some'
    · have digits := Nat.toList_repr.symm.trans ((congrArg String.toList same).trans Nat.toList_repr)
      exact differ (Nat.succ.inj (toDigits_inj digits))

def onTank (id path : String) : NfsShare := { id, path, clients := [⟨"*", "rw,sync"⟩] }

theorem fsids_distinct_abc : ((onTank "abc" "/fs/tank/a").fsids fun _ => true) = ["193485964"] ∧
    ([onTank "abc" "/fs/tank/a", onTank "abd" "/fs/tank/b"].map (·.fsids fun _ => true)).Pairwise List.Disjoint :=
  ⟨by decide +kernel, (fsids_distinct_iff _ (by decide +kernel)).mpr
    (pairwise_pair.mpr (.inr (.inr (by decide +kernel))))⟩

/-- Two ids as they are made for new shares. -/
theorem fsids_collide : writeExportFile (onTank "4aa9773f-1f3a-408c-a410-4745d09a27d1" "/fs/tank/a") true = .ok (some
      "# NASty share 4aa9773f-1f3a-408c-a410-4745d09a27d1\n/fs/tank/a\t*(rw,sync,fsid=1444288048,insecure)\n") ∧
    writeExportFile (onTank "4381c3fa-4d92-4661-a020-7b7ce27f214b" "/fs/tank/b") true = .ok (some
      "# NASty share 4381c3fa-4d92-4661-a020-7b7ce27f214b\n/fs/tank/b\t*(rw,sync,fsid=1444288048,insecure)\n") := by
  decide +kernel

end NastyEngine.Exports
