import NastyEngine.Backup.Endpoint

/-!
Messages with URLs in them, and what `redact_url_credentials` makes of them.
-/

namespace NastyEngine.Backup
open Lib Rust List

variable {s : List Char}

theorem schemeLength_take {n : Nat} (hit : schemeLength s = some n) :
    (s.take n).length = n ∧ ∀ rest, schemeLength (s.take n ++ rest) = some n := by
  obtain ⟨rfl, eq⟩ | ⟨rfl, eq⟩ := schemeLength_found hit
  · have length : (s.take 8).length = 8 := by simpa using congrArg List.length eq
    refine ⟨length, fun rest => if_pos ?_⟩
    rw [take_left' length, eq]
  · have length : (s.take 7).length = 7 := by simpa using congrArg List.length eq
    refine ⟨length, fun rest => (if_neg ?_).trans (if_pos ?_)⟩
    · rw [take_append, map_append, take_of_length_le (by omega), eq]
      simp
    · rw [take_left' length, eq]

variable {c : Char}

theorem schemeLength_cons (ne : toAsciiLowercase c ≠ 'h') (s : List Char) : schemeLength (c :: s) = none := by
  simp [schemeLength, ne]

theorem redactChars_nil : redactChars [] = [] := by
  rw [redactChars]
  rfl

theorem redactChars_plain {w : List Char} (plain : w.all (toAsciiLowercase · ≠ 'h') = true) (s : List Char) :
    redactChars (w ++ s) = w ++ redactChars s := by
  induction w with
  | nil => rfl
  | cons c w ih =>
    rw [all_cons, Bool.and_eq_true, decide_eq_true_eq] at plain
    rw [cons_append, redactChars_cons (schemeLength_cons plain.1 _), ih plain.2, cons_append]

theorem head?_redactChars (s : List Char) : (redactChars s).head? = s.head? := by
  cases eq : schemeLength s with
  | none =>
    cases s with
    | nil => rw [redactChars_nil]
    | cons c s => rw [redactChars_cons eq, head?_cons, head?_cons]
  | some n =>
    obtain ⟨length, isScheme⟩ := schemeLength_take eq
    have nonempty : s.take n ≠ [] := ne_nil_of_length_pos (length.symm ▸ (schemeLength_pos eq).1)
    rw [← take_append_drop n s, redactChars_url (length.symm ▸ isScheme), head?_append_of_ne_nil _ nonempty,
      head?_append_of_ne_nil _ nonempty]

/-- Redaction changes nothing up to where a URL can begin. -/
theorem redactChars_start {w z : List Char} (plain : ∀ c ∈ w, toAsciiLowercase c ≠ 'h')
    (eq : redactChars s = w ++ z) : w <+: s := by
  induction w generalizing s with
  | nil => exact nil_prefix
  | cons c w ih =>
    obtain ⟨first, rest⟩ := forall_mem_cons.mp plain
    have head := head?_redactChars s
    rw [eq] at head
    cases s with
    | nil => cases head
    | cons d s =>
      cases head
      rw [redactChars_cons (schemeLength_cons first s)] at eq
      exact cons_prefix_cons.mpr ⟨rfl, ih rest (List.cons.inj eq).2⟩

theorem schemeLength_tail {n : Nat} (hit : schemeLength (c :: s) = some n) :
    ∃ m, n = m + 1 ∧ ∀ x ∈ s.take m, toAsciiLowercase x ≠ 'h' := by
  have absent {w : List Char} {t : String} (eq : w.map toAsciiLowercase = t.toList) (plain : 'h' ∉ t.toList) :
      ∀ x ∈ w, toAsciiLowercase x ≠ 'h' := by
    rintro x mem isH
    exact plain (eq ▸ isH ▸ mem_map_of_mem mem)
  obtain ⟨rfl, eq⟩ | ⟨rfl, eq⟩ := schemeLength_found hit
  · exact ⟨7, rfl, absent (t := "ttps://") (List.cons.inj eq).2 (by decide)⟩
  · exact ⟨6, rfl, absent (t := "ttp://") (List.cons.inj eq).2 (by decide)⟩

theorem schemeLength_redact (plain : schemeLength (c :: s) = none) : schemeLength (c :: redactChars s) = none := by
  by_contra found
  obtain ⟨n, found⟩ := Option.ne_none_iff_exists'.mp found
  obtain ⟨m, rfl, tail⟩ := schemeLength_tail found
  obtain ⟨rest, eq⟩ := redactChars_start tail (take_append_drop m (redactChars s)).symm
  have there := (schemeLength_take found).2 rest
  rw [take_succ_cons, cons_append, eq, plain] at there
  cases there

def redactAfter (s : List Char) : List Char :=
  s.takeWhile (!endsAuthority ·) ++ redactChars (s.dropWhile (!endsAuthority ·))

theorem redactAfter_cons (inv : endsAuthority c = false) (s : List Char) : redactAfter (c :: s) = c :: redactAfter s := by
  simp [redactAfter, inv]

theorem redactAfter_end (ends : endsAuthority c = true) (s : List Char) :
    redactAfter (c :: s) = redactChars (c :: s) := by
  simp [redactAfter, ends]

theorem takeWhile_redactAfter {s : List Char} :
    (redactAfter s).takeWhile (!endsAuthority ·) = s.takeWhile (!endsAuthority ·) ∧
      (redactAfter s).dropWhile (!endsAuthority ·) = redactChars (s.dropWhile (!endsAuthority ·)) := by
  induction s with
  | nil => simp [redactAfter, redactChars_nil]
  | cons c s ih =>
    cases ends : endsAuthority c with
    | false =>
      rw [redactAfter_cons ends]
      simpa [ends] using ih
    | true =>
      obtain ⟨rest, eq⟩ := head?_eq_some_iff.mp (head?_redactChars (c :: s))
      rw [redactAfter_end ends, eq]
      simp [ends, eq]

theorem redactChars_idem (s : List Char) : redactChars (redactChars s) = redactChars s := by
  fun_induction redactChars s with
  | case1 => exact redactChars_nil
  | case2 c rest scheme ih => rw [redactChars_cons (schemeLength_redact scheme), ih]
  | case3 s n scheme authority more ih ihHost =>
    obtain ⟨length, isScheme⟩ := schemeLength_take scheme
    split
    next eq =>
      obtain ⟨first, rest⟩ := takeWhile_redactAfter
      change redactChars (_ ++ redactAfter (s.drop n)) = _
      rw [redactChars_url (length.symm ▸ isScheme), first, rest, eq]
      exact congrArg (fun after => s.take n ++ (authority ++ after)) ih
    next host eq =>
      rw [redactChars_url (length.symm ▸ isScheme)]
      change _ ++ ("[redacted".toList ++ redactChars ("]@".toList ++ redactChars (host ++ more))) = _
      rw [redactChars_plain (by decide), ihHost host eq]
      rfl

structure Userinfo where
  username : String
  password : Option String
  present : username ≠ "" ∨ password ≠ none

def Userinfo.text (u : Userinfo) : List Char :=
  (encodeUserinfo u.username).toList ++ u.password.elim [] fun password => ':' :: (encodeUserinfo password).toList

def Userinfo.redacted (_ : Userinfo) : List Char := "[redacted]".toList

/-- A message is text with URLs in it; the host of a URL and what follows it are text. -/
inductive Piece where
  | char (c : Char)
  | url (https : Bool) (userinfo : Option Userinfo)
  -- a URL of another scheme, which is text as well
  | foreign (userinfo : Userinfo)

def schemeText (https : Bool) : List Char := if https then "https://".toList else "http://".toList

section Written
variable (userinfo : Userinfo → List Char)

def Piece.written : Piece → List Char
  | char c => [c]
  | url https none => schemeText https
  | url https (some u) => schemeText https ++ (userinfo u ++ ['@'])
  | foreign u => userinfo u ++ ['@']

def written (m : List Piece) : List Char := m.flatMap (Piece.written userinfo)

end Written

/-- The URLs of the message are its `url` pieces: no other scheme is in its text, and userinfo right after
a scheme belongs to its URL. -/
def Unambiguous : List Piece → Prop
  | [] => True
  | .char c :: rest => schemeLength (c :: written Userinfo.text rest) = none ∧ Unambiguous rest
  | .url _ userinfo :: rest => (userinfo = none → ∀ u, rest.head? ≠ some (.foreign u)) ∧ Unambiguous rest
  | .foreign _ :: rest => Unambiguous rest

/-- Where the scan ends an authority, no `@` comes first. -/
abbrev LastAt (rest : List Piece) : Prop := '@' ∉ (written Userinfo.text rest).takeWhile (!endsAuthority ·)

/-- Userinfo is only in HTTP URLs and has no `)`, none of these begins where the scan passes over an authority,
and no other `@` follows a URL before its authority ends. -/
def Caught : (passing : Bool) → List Piece → Prop
  | _, [] => True
  | passing, .char c :: rest => Caught (passing && !endsAuthority c) rest
  | passing, .url _ none :: rest => (passing = false → LastAt rest) ∧ Caught (!passing) rest
  | passing, .url _ (some u) :: rest => passing = false ∧ ')' ∉ u.text ∧ LastAt rest ∧ Caught false rest
  | _, .foreign _ :: _ => False

variable {u : Userinfo}

theorem Userinfo.mem_text (mem : c ∈ u.text) : c ≠ '[' ∧ c ≠ '@' ∧ (endsAuthority c = true ↔ c = ')') := by
  have encoded {s : String} := mem_encodeUserinfo (s := s) (c := c)
    (fun c => c ≠ '[' ∧ c ≠ '@' ∧ (endsAuthority c = true ↔ c = ')')) (by decide +kernel)
  rcases mem_append.mp mem with inName | inPassword
  · exact encoded inName
  · cases given : u.password with
    | none =>
      rw [given] at inPassword
      cases inPassword
    | some password =>
      rw [given] at inPassword
      rcases mem_cons.mp inPassword with rfl | inPassword
      · decide
      · exact encoded inPassword

theorem Userinfo.text_ne_nil (u : Userinfo) : u.text ≠ [] := by
  obtain ⟨username, password, present⟩ := u
  intro empty
  obtain ⟨noName, noPassword⟩ := append_eq_nil_iff.mp empty
  cases password with
  | none => exact present.elim (fun named => named (encodeUserinfo_toList_eq_nil.mp noName)) fun given => given rfl
  | some password => cases noPassword

section
variable (https : Bool)

theorem schemeLength_schemeText (rest : List Char) :
    schemeLength (schemeText https ++ rest) = some (schemeText https).length := by
  cases https <;> rfl

/-- The scan does not see a scheme that begins in the authority it passes over. -/
theorem redactAfter_scheme (s : List Char) : redactAfter (schemeText https ++ s) = schemeText https ++ redactChars s := by
  have slashes : redactChars ("//".toList ++ s) = "//".toList ++ redactChars s := redactChars_plain (by decide) s
  cases https with
  | false => exact congrArg ("http:".toList ++ ·) slashes
  | true => exact congrArg ("https:".toList ++ ·) slashes

theorem redactChars_bare (bare : '@' ∉ s.takeWhile (!endsAuthority ·)) :
    redactChars (schemeText https ++ s) = schemeText https ++ redactAfter s := by
  rw [redactChars_url (schemeLength_schemeText https), afterLastAt, if_neg bare, redactAfter]

theorem redactChars_userinfo (plain : ')' ∉ u.text) (s : List Char) :
    redactChars (schemeText https ++ (u.text ++ ['@'] ++ s)) = schemeText https ++ (u.redacted ++ ['@'] ++
      redactChars (('@' :: s.takeWhile (!endsAuthority ·)).rtakeWhile (· ≠ '@') ++ s.dropWhile (!endsAuthority ·))) := by
  have inv : ∀ c ∈ u.text, endsAuthority c = false := fun c mem =>
    Bool.eq_false_iff.mpr fun ends => plain ((u.mem_text mem).2.2.mp ends ▸ mem)
  rw [append_assoc, singleton_append, ← append_assoc, redactChars_scheme (schemeLength_schemeText https) inv,
    append_assoc]
  rfl

end

theorem rtakeWhile_last (last : '@' ∉ s) : ('@' :: s).rtakeWhile (· ≠ '@') = s := by
  rw [List.rtakeWhile, reverse_cons, takeWhile_append_of_pos (by
    rintro c mem
    exact decide_eq_true fun isAt => last (isAt ▸ mem_reverse.mp mem))]
  simp

theorem count_rtakeWhile (s : List Char) : (s.rtakeWhile (· ≠ '@')).count '@' = 0 :=
  count_eq_zero.mpr fun mem => by simpa using mem_rtakeWhile_imp mem

/-- Redaction adds no `@`. -/
theorem count_redactChars (s : List Char) : (redactChars s).count '@' ≤ s.count '@' := by
  fun_induction redactChars s with
  | case1 => exact Nat.le_refl _
  | case2 c rest scheme ih =>
    rw [count_cons, count_cons]
    omega
  | case3 s n scheme authority more ih ihHost =>
    have whole : s.count '@' = (s.take n).count '@' + (authority.count '@' + more.count '@') := by
      rw [← count_append, takeWhile_append_dropWhile, ← count_append, take_append_drop]
    rw [count_append, whole]
    split
    · rw [count_append]
      omega
    next host eq =>
      have later := ihHost host eq
      rw [afterLastAt] at eq
      split at eq
      next found =>
        cases eq
        have one := count_pos_iff.mpr found
        rw [count_append, count_rtakeWhile] at later
        rw [count_append, show "[redacted]@".toList.count '@' = 1 by decide]
        omega
      · cases eq

theorem Userinfo.count_text (u : Userinfo) : u.text.count '@' = 0 :=
  count_eq_zero.mpr fun mem => (u.mem_text mem).2.1 rfl

theorem Userinfo.count_redacted (u : Userinfo) : u.redacted.count '@' = 0 := by
  unfold Userinfo.redacted
  decide

theorem count_written (m : List Piece) :
    (written Userinfo.redacted m).count '@' = (written Userinfo.text m).count '@' := by
  have same (piece : Piece) : (piece.written Userinfo.redacted).count '@' = (piece.written Userinfo.text).count '@' := by
    cases piece with
    | char c => simp only [Piece.written]
    | url https userinfo =>
      cases userinfo with
      | none => simp only [Piece.written]
      | some u => simp only [Piece.written, count_append, u.count_text, u.count_redacted]
    | foreign u => simp only [Piece.written, count_append, u.count_text, u.count_redacted]
  rw [written, written, count_flatMap, count_flatMap]
  exact congrArg List.sum (map_congr_left fun piece _ => same piece)

variable {m : List Piece}

/-- What lies between the userinfo and a later `@` is lost with it. -/
theorem redaction_swallows (swallowed : ¬LastAt m) :
    redactChars (('@' :: (written Userinfo.text m).takeWhile (!endsAuthority ·)).rtakeWhile (· ≠ '@') ++
      (written Userinfo.text m).dropWhile (!endsAuthority ·)) ≠ written Userinfo.redacted m := by
  intro eq
  have kept := count_redactChars (('@' :: (written Userinfo.text m).takeWhile (!endsAuthority ·)).rtakeWhile (· ≠ '@') ++
    (written Userinfo.text m).dropWhile (!endsAuthority ·))
  have one := count_pos_iff.mpr (not_not.mp swallowed)
  have whole := congrArg (count '@') (takeWhile_append_dropWhile (p := (!endsAuthority ·)) (l := written Userinfo.text m))
  rw [eq, count_written, count_append, count_rtakeWhile] at kept
  rw [count_append] at whole
  omega

theorem Piece.head?_redacted (piece : Piece) (s : List Char) : (piece.written Userinfo.redacted ++ s).head? =
    some (match piece with | char c => c | url _ _ => 'h' | foreign _ => '[') := by
  have bracket (u : Userinfo) : u.redacted.head? = some '[' := show "[redacted]".toList.head? = some '[' by decide
  have scheme (https : Bool) : (schemeText https).head? = some 'h' := by cases https <;> decide
  cases piece with
  | char c => rfl
  | url https userinfo => cases userinfo <;> simp [Piece.written, scheme]
  | foreign u => simp [Piece.written, bracket]

/-- Up to where userinfo or a URL can begin, the two ways of writing agree. -/
theorem written_start {w z : List Char} (plain : ∀ c ∈ w, c ≠ '[' ∧ c ≠ 'h')
    (eq : written Userinfo.redacted m = w ++ z) : w <+: written Userinfo.text m := by
  induction w generalizing m with
  | nil => exact nil_prefix
  | cons c w ih =>
    obtain ⟨first, rest⟩ := forall_mem_cons.mp plain
    cases m with
    | nil => cases eq
    | cons piece m =>
      rw [written, flatMap_cons, ← written] at eq ⊢
      have head := piece.head?_redacted (written Userinfo.redacted m)
      rw [eq, cons_append, head?_cons] at head
      cases piece with
      | char d =>
        cases head
        exact cons_prefix_cons.mpr ⟨rfl, ih rest (List.cons.inj eq).2⟩
      | url https userinfo => exact absurd (Option.some.inj head) first.2
      | foreign u => exact absurd (Option.some.inj head) first.1

/-- A URL without userinfo stays as it is only if no `@` comes before the scan ends its authority. -/
theorem bare_exact (https : Bool) (direct : ∀ u, m.head? ≠ some (.foreign u)) :
    redactChars (schemeText https ++ written Userinfo.text m) = schemeText https ++ written Userinfo.redacted m ↔
      LastAt m ∧ redactAfter (written Userinfo.text m) = written Userinfo.redacted m := by
  by_cases bare : LastAt m
  · rw [redactChars_bare https bare, append_cancel_left_eq, and_iff_right bare]
  refine iff_of_false ?_ fun both => bare both.1
  have marked : "[redacted]@".toList = '[' :: ("redacted]".toList ++ ['@']) := by decide
  have found : afterLastAt ((written Userinfo.text m).takeWhile (!endsAuthority ·)) = some _ := if_pos (not_not.mp bare)
  rw [redactChars_url (schemeLength_schemeText https), found, append_cancel_left_eq]
  dsimp only
  rw [marked, cons_append, append_assoc]
  intro eq
  -- only text begins with a bracket here, and the one that closes it ends the authority
  cases m with
  | nil => cases eq
  | cons piece m =>
    have head := piece.head?_redacted (written Userinfo.redacted m)
    have parts : written Userinfo.redacted (piece :: m) = piece.written Userinfo.redacted ++ written Userinfo.redacted m :=
      flatMap_cons
    rw [← parts, ← eq, head?_cons] at head
    cases piece with
    | char d =>
      cases head
      obtain ⟨more, text⟩ := written_start (w := "redacted]".toList) (by simp)
        (List.cons.inj eq).2.symm
      apply bare
      rw [LastAt, written, flatMap_cons, ← written, ← text]
      have ends : ("redacted]".toList ++ more).takeWhile (!endsAuthority ·) = "redacted".toList := by
        rw [show "redacted]".toList = "redacted".toList ++ [']'] by decide, append_assoc,
          takeWhile_append_of_pos (all_eq_true.mp (by decide))]
        simp [show endsAuthority ']' = true by decide]
      rw [Piece.written, singleton_append, takeWhile_cons_of_pos (by decide), ends]
      decide
    | url https userinfo => exact absurd (Option.some.inj head) (show '[' ≠ 'h' by decide)
    | foreign u => exact direct u rfl

theorem head?_redactAfter (s : List Char) : (redactAfter s).head? = s.head? := by
  cases s with
  | nil => simp [redactAfter, redactChars_nil]
  | cons c s =>
    cases ends : endsAuthority c with
    | false => rw [redactAfter_cons ends, head?_cons, head?_cons]
    | true => rw [redactAfter_end ends, head?_redactChars]

theorem Userinfo.leaked {found shown : List Char} (head : found.head? = (u.text ++ ['@'] ++ s).head?) :
    found ≠ u.redacted ++ ['@'] ++ shown := by
  rintro rfl
  rw [append_assoc, append_assoc, head?_append_of_ne_nil _ u.text_ne_nil] at head
  exact (u.mem_text (mem_of_mem_head? head.symm)).1 rfl

theorem at_notMem_authority (closes : ')' ∈ u.text) (s : List Char) :
    '@' ∉ (u.text ++ s).takeWhile (!endsAuthority ·) := by
  obtain ⟨a, b, eq⟩ := append_of_mem closes
  intro mem
  have before : '@' ∈ a := by
    rw [eq, append_assoc, cons_append, takeWhile_append] at mem
    split at mem
    · simpa [show endsAuthority ')' = true by decide] using mem
    · exact (List.takeWhile_prefix _).mem mem
  exact (u.mem_text (eq ▸ mem_append_left _ before)).2.1 rfl

/-- Of a message, from its start or from within an authority without an `@`. -/
def scan : (passing : Bool) → List Char → List Char
  | false => redactChars
  | true => redactAfter

theorem head?_scan {passing : Bool} (s : List Char) : (scan passing s).head? = s.head? := by
  cases passing with
  | false => exact head?_redactChars s
  | true => exact head?_redactAfter s

theorem scan_caught (unambiguous : Unambiguous m) (passing : Bool) :
    scan passing (written Userinfo.text m) = written Userinfo.redacted m ↔ Caught passing m := by
  induction m generalizing passing with
  | nil => cases passing <;> simp [written, scan, redactAfter, redactChars_nil, Caught]
  | cons piece rest ih =>
    rw [written, written, flatMap_cons, flatMap_cons, ← written, ← written]
    cases piece with
    | char c =>
      obtain ⟨plain, unambiguous⟩ := unambiguous
      have kept : scan passing ([c] ++ written Userinfo.text rest) =
          [c] ++ scan (passing && !endsAuthority c) (written Userinfo.text rest) := by
        cases passing with
        | false => exact redactChars_cons plain
        | true =>
          cases ends : endsAuthority c with
          | false => exact redactAfter_cons ends _
          | true => exact (redactAfter_end ends _).trans (redactChars_cons plain)
      rw [Piece.written, Piece.written, kept, append_cancel_left_eq, Caught, ih unambiguous]
    | url https userinfo =>
      obtain ⟨direct, unambiguous⟩ := unambiguous
      cases userinfo with
      | none =>
        rw [Piece.written, Piece.written, Caught]
        cases passing with
        | false =>
          rw [scan, bare_exact https (direct rfl), ← ih unambiguous]
          exact and_congr_left fun _ => ⟨fun bare _ => bare, fun bare => bare rfl⟩
        | true =>
          rw [scan, redactAfter_scheme, append_cancel_left_eq, ← ih unambiguous]
          exact ⟨fun eq => ⟨nofun, eq⟩, And.right⟩
      | some u =>
        rw [Piece.written, Piece.written, append_assoc (schemeText https), append_assoc (schemeText https), Caught]
        cases passing with
        | true =>
          rw [scan, redactAfter_scheme, append_cancel_left_eq]
          exact iff_of_false (u.leaked (head?_redactChars _)) fun caught => Bool.noConfusion caught.1
        | false =>
          by_cases closes : ')' ∈ u.text
          · rw [scan, redactChars_bare https, append_cancel_left_eq]
            · exact iff_of_false (u.leaked (head?_redactAfter _)) fun caught => caught.2.1 closes
            · rw [append_assoc]
              exact at_notMem_authority closes _
          · rw [scan, redactChars_userinfo https closes, append_cancel_left_eq, append_cancel_left_eq]
            by_cases bare : LastAt rest
            · rw [rtakeWhile_last bare, takeWhile_append_dropWhile, ← scan, ih unambiguous]
              exact ⟨fun caught => ⟨rfl, closes, bare, caught⟩, fun caught => caught.2.2.2⟩
            · exact iff_of_false (redaction_swallows bare) fun caught => bare caught.2.2.1
    | foreign u => exact iff_of_false (u.leaked (head?_scan _)) id

/-- A message comes out with each userinfo replaced and all else unchanged exactly if the scan catches every
userinfo in it and takes nothing for userinfo that is not; redacting again changes nothing in any case. -/
theorem redaction_exact (unambiguous : Unambiguous m) :
    redactUrlCredentials (String.ofList (written Userinfo.text m)) = String.ofList (written Userinfo.redacted m) ∧
        (∀ message, redactUrlCredentials (redactUrlCredentials message) = redactUrlCredentials message) ↔
      Caught false m := by
  have again (message : String) : redactUrlCredentials (redactUrlCredentials message) = redactUrlCredentials message := by
    rw [redactUrlCredentials, redactUrlCredentials, String.toList_ofList, redactChars_idem]
  rw [← scan_caught unambiguous false, and_iff_left again, redactUrlCredentials, String.toList_ofList, scan]
  exact ⟨String.ofList_injective, congrArg String.ofList⟩

theorem redaction_exact_two :
    let m : List Piece := [.url true (some ⟨"user", some "secret", .inl (by decide)⟩), .char 'a', .char ' ',
      .url false (some ⟨"u", none, .inl (by decide)⟩), .char 'b']
    Unambiguous m ∧ written Userinfo.text m = "https://user:secret@a http://u@b".toList ∧
      redactUrlCredentials (String.ofList (written Userinfo.text m)) = "https://[redacted]@a http://[redacted]@b" := by
  intro m
  have unambiguous : Unambiguous m := by
    refine ⟨nofun, ?_, ?_, nofun, ?_, trivial⟩ <;> decide +kernel
  have caught : Caught false m := by
    refine ⟨rfl, ?_, ?_, rfl, ?_, ?_, trivial⟩ <;> decide +kernel
  exact ⟨unambiguous, by decide +kernel, ((redaction_exact unambiguous).mpr caught).1⟩

/-- `url` leaves a `)` as it is. -/
theorem password_shown :
    let m : List Piece := [.url true (some ⟨"user", some "pa)ss", .inl (by decide)⟩), .char 'a', .char '/']
    Unambiguous m ∧ written Userinfo.text m = "https://user:pa)ss@a/".toList ∧
      redactUrlCredentials (String.ofList (written Userinfo.text m)) = "https://user:pa)ss@a/" := by
  intro m
  have unambiguous : Unambiguous m := by
    refine ⟨nofun, ?_, ?_, trivial⟩ <;> decide +kernel
  exact ⟨unambiguous, by decide +kernel, by decide +kernel⟩

-- the text up to the second `@` goes with the userinfo
example : redactUrlCredentials "https://user:pw@h,f@b" = "https://[redacted]@b" := by decide +kernel

-- the authority of the first URL goes on to the second
example : redactUrlCredentials "https://a,https://user:secret@b/" = "https://a,https://user:secret@b/" := by
  decide +kernel

end NastyEngine.Backup
