import Mathlib.Data.List.DropRight
import LinkLedger.Proofs.Address.Accepted

/-!
# How an accepted url begins

A url is kept and sent as a location just as it came in, but it is accepted by a reading that repairs
it: behind a scheme of the web any number of slashes of either kind is as good as two. So there are
two readings of one text, and they part where the slashes are not two.

- `startsAbsolute` is what the text itself says: `http://` or `https://` and a host behind it.
- `accepted_begins`: an accepted url is a scheme of the web, slashes and a host, and **it is absolute
  by its own text exactly if the slashes are the usual two**; the check has seen the url with two.
- `accepted_without_slashes`: they need not be two. `http:host/app` is accepted, and a client that
  resolves it against an address of `http` looks for a path there.
-/

set_option autoImplicit false

namespace LinkLedger.Address

open LinkLedger.Unicode

/-- Whether a url is absolute by its own text, letter case apart: `http://` or `https://`, and then
    something that may begin a host. -/
def startsAbsolute (url : String) : Bool :=
  ["http://", "https://"].any fun start =>
    (start.toList.isPrefixOf? (url.toList.map Char.toLower)).any fun rest =>
      rest.head?.any fun c => !endsAuthority .web c

/-- A url as it is written: a scheme of the web, slashes of either kind, and what begins a host. -/
structure Written (url : String) (scheme slashes behind : List Char) : Prop where
  text : url.toList = scheme ++ ':' :: (slashes ++ behind)
  web : scheme.map Char.toLower = "http".toList ∨ scheme.map Char.toLower = "https".toList
  slash : ∀ s ∈ slashes, s = '/' ∨ s = '\\'
  host : ∃ c rest, behind = c :: rest ∧ c ∉ ['/', '?', '#', '\\']

/-! ## Cleaning up -/

theorem blank_or_control_of_trimmed {c : Char} (h : isTrimmed c = true) :
    isBlank c = true ∨ isControl c = true := by
  have hle : c.toNat ≤ 0x20 := by simpa [isTrimmed] using h
  rcases Nat.lt_or_eq_of_le hle with hlt | heq
  · right
    simp [isControl, hlt]
  · left
    simp [isBlank, heq]

theorem not_dropped_of_not_control {c : Char} (h : isControl c = false) : isDropped c = false := by
  apply eq_false_of_ne_true
  intro hdropped
  simp only [isDropped, Bool.or_eq_true, beq_iff_eq] at hdropped
  rcases hdropped with (rfl | rfl) | rfl <;> exact absurd h (by decide)

theorem dropWhile_eq_self_of_head? {p : Char → Bool} {text : List Char}
    (h : text.head?.any p = false) : text.dropWhile p = text := by
  cases text with
  | nil => rfl
  | cons c rest => exact List.dropWhile_cons_of_neg (by simpa using h)

/-- Nothing is dropped from a text without controls and without blanks at its ends. -/
theorem cleanUp_eq_self {text : List Char} (hends : hasBlankEnd text = false)
    (hcontrol : text.any isControl = false) : cleanUp text = text := by
  have hmem : ∀ c ∈ text, isControl c = false := by simpa using hcontrol
  obtain ⟨hhead, hlast⟩ := Bool.or_eq_false_iff.mp hends
  -- an end that is trimmed would be a blank or a control
  have untrimmed : ∀ {o : Option Char}, o.any isBlank = false → (∀ c, o = some c → c ∈ text) →
      o.any isTrimmed = false := by
    intro o hblank hin
    cases o with
    | none => rfl
    | some c =>
      show isTrimmed c = false
      apply eq_false_of_ne_true
      intro htrim
      rcases blank_or_control_of_trimmed htrim with hb | hc
      · exact absurd hblank (by simp [hb])
      · exact absurd (hmem c (hin c rfl)) (by simp [hc])
  have hfront : text.dropWhile isTrimmed = text :=
    dropWhile_eq_self_of_head? (untrimmed hhead fun _ => List.mem_of_head?)
  have hback : text.reverse.dropWhile isTrimmed = text.reverse := by
    apply dropWhile_eq_self_of_head?
    rw [List.head?_reverse]
    exact untrimmed hlast fun _ => List.mem_of_getLast?
  rw [cleanUp, hfront, hback, List.reverse_reverse, List.filter_eq_self]
  intro c hc
  simp [not_dropped_of_not_control (hmem c hc)]

theorem hasBlankEnd_between (first last : Char) (front middle rest : List Char) :
    hasBlankEnd (first :: front ++ middle ++ last :: rest) =
      hasBlankEnd (first :: front ++ last :: rest) := by
  simp [hasBlankEnd, List.getLast?_cons]

/-! ## The scheme -/

/-- Whether a text may stand in front of a colon as a scheme. -/
def isScheme (text : List Char) : Bool := text.head?.any Char.isAlpha && text.all isSchemeChar

theorem splitScheme?_eq_some {text scheme rest : List Char} :
    splitScheme? text = some (scheme, rest) ↔
      ∃ read, isScheme read = true ∧ scheme = read.map Char.toLower ∧
        text = read ++ ':' :: rest := by
  constructor
  · intro h
    unfold splitScheme? at h
    split at h
    · rename_i c more
      split at h
      · rename_i halpha
        split at h
        · rename_i behind hdrop
          obtain ⟨rfl, rfl⟩ := Prod.mk.injEq .. ▸ Option.some.inj h
          refine ⟨(c :: more).takeWhile isSchemeChar, ?_, rfl, ?_⟩
          · have hc : isSchemeChar c = true := by simp [isSchemeChar, Char.isAlphanum, halpha]
            simp [isScheme, List.takeWhile_cons_of_pos hc, halpha, hc, List.all_takeWhile]
          · rw [← hdrop, List.takeWhile_append_dropWhile]
        · cases h
      · cases h
    · cases h
  · rintro ⟨read, hread, rfl, rfl⟩
    obtain ⟨hhead, hall⟩ := Bool.and_eq_true_iff.mp hread
    cases read with
    | nil => simp at hhead
    | cons c more =>
      have halpha : c.isAlpha = true := by simpa using hhead
      have htake : ((c :: more) ++ ':' :: rest).takeWhile isSchemeChar = c :: more := by
        rw [List.takeWhile_append_of_pos (by simpa using hall)]
        simp [isSchemeChar]
      have hdrop : ((c :: more) ++ ':' :: rest).dropWhile isSchemeChar = ':' :: rest := by
        rw [List.dropWhile_append_of_pos (by simpa using hall)]
        exact List.dropWhile_cons_of_neg (by decide)
      simp only [List.cons_append] at htake hdrop ⊢
      simp only [splitScheme?, halpha, hdrop, htake, if_true]

/-! ## What is read behind the scheme -/

theorem scheme_of_readAuthority {kind : SchemeKind} {scheme authority : List Char} {more : Bool}
    {target : Target} (h : readAuthority kind scheme authority more = .ok target) :
    target.scheme = String.ofList scheme := by
  simp only [readAuthority, bind, Except.bind, pure, Except.pure, throw, throwThe,
    MonadExceptOf.throw] at h
  repeat' split at h
  all_goals first
    | contradiction
    | exact congrArg Target.scheme (Except.ok.inj h).symm

theorem scheme_of_readFile {scheme rest : List Char} {target : Target}
    (h : readFile scheme rest = .ok target) : target.scheme = String.ofList scheme := by
  simp only [readFile, bind, Except.bind, pure, Except.pure] at h
  repeat' split at h
  all_goals first
    | contradiction
    | exact congrArg Target.scheme (Except.ok.inj h).symm

/-- The scheme of an address is the one in front of its first colon. -/
theorem scheme_of_parse {text : String} {target : Target} (h : parse text = .ok target) :
    ∃ rest, splitScheme? (cleanUp text.toList) = some (target.scheme.toList, rest) := by
  unfold parse at h
  split at h
  · cases h
  · rename_i scheme rest hsplit
    suffices hscheme : target.scheme = String.ofList scheme from
      ⟨rest, by rw [hsplit, hscheme, String.toList_ofList]⟩
    split at h
    · exact scheme_of_readAuthority h
    · exact scheme_of_readFile h
    · split at h
      · exact scheme_of_readAuthority h
      · exact congrArg Target.scheme (Except.ok.inj h).symm

theorem readAuthority_nil (scheme : List Char) (more : Bool) :
    readAuthority .web scheme [] more = .error .emptyHost := by
  cases more <;> rfl

/-- On the web an address is a scheme, slashes and an authority. How many slashes, and of which kind,
    makes no difference. -/
theorem parse_of_web {read rest : List Char} (hread : isScheme read = true)
    (hweb : SchemeKind.ofScheme (read.map Char.toLower) = .web)
    {text : String} (hclean : cleanUp text.toList = read ++ ':' :: rest) :
    parse text = readAuthority .web (read.map Char.toLower)
      (takeAuthority .web (rest.dropWhile isSlash)).1
      (takeAuthority .web (rest.dropWhile isSlash)).2 := by
  have hsplit : splitScheme? (cleanUp text.toList) = some (read.map Char.toLower, rest) := by
    rw [hclean]
    exact splitScheme?_eq_some.mpr ⟨read, hread, rfl, rfl⟩
  unfold parse
  simp only [hsplit, hweb]

theorem host_of_readAuthority {scheme authority : List Char} {more : Bool} {target : Target}
    (h : readAuthority .web scheme authority more = .ok target) : ∃ host, target.host = some host := by
  simp only [readAuthority, bind, Except.bind, pure, Except.pure, throw, throwThe,
    MonadExceptOf.throw, if_true] at h
  repeat' split at h
  all_goals first
    | contradiction
    | exact ⟨_, congrArg Target.host (Except.ok.inj h).symm⟩

/-- What a web address has behind its slashes, if it is one: something that may begin a host. -/
theorem host_begins_of_readAuthority {scheme text : List Char} {target : Target}
    (h : readAuthority .web scheme (takeAuthority .web text).1 (takeAuthority .web text).2 =
      .ok target) : ∃ c rest, text = c :: rest ∧ endsAuthority .web c = false := by
  cases text with
  | nil => exact absurd h (by simp [takeAuthority, readAuthority_nil])
  | cons c rest =>
    refine ⟨c, rest, rfl, ?_⟩
    apply eq_false_of_ne_true
    intro hend
    have hnil : (takeAuthority .web (c :: rest)).1 = [] := by simp [takeAuthority, hend]
    rw [hnil, readAuthority_nil] at h
    cases h

theorem not_endsAuthority_iff {c : Char} :
    endsAuthority .web c = false ↔ c ∉ ['/', '?', '#', '\\'] := by
  simp [endsAuthority, and_assoc]

theorem isSlash_iff {c : Char} : isSlash c = true ↔ c = '/' ∨ c = '\\' := by
  simp [isSlash]

theorem toLower_of_slash {c : Char} (h : isSlash c = true) : c.toLower = c := by
  rcases isSlash_iff.mp h with rfl | rfl <;> rfl

theorem endsAuthority_of_slash {c : Char} (h : isSlash c = true) :
    endsAuthority .web c = true := by
  rcases isSlash_iff.mp h with rfl | rfl <;> rfl

theorem endsAuthority_toLower {c : Char} (h : endsAuthority .web c = false) :
    endsAuthority .web c.toLower = false := by
  unfold Char.toLower
  split
  · rename_i hupper
    generalize hd : Char.mk (c.val + ('a'.val - 'A'.val)) _ = d
    have hval : d.val = c.val + 32 := by
      rw [← hd]
      rfl
    have hlower : 97 ≤ d.val.toNat := by
      have hA : 65 ≤ c.val.toNat := hupper.1
      have hZ : c.val.toNat ≤ 90 := hupper.2
      have hadd : (c.val + 32).toNat = c.val.toNat + 32 :=
        (UInt32.toNat_add c.val 32).trans
          (Nat.mod_eq_of_lt (show c.val.toNat + 32 < 2 ^ 32 by omega))
      rw [hval, hadd]
      omega
    -- all characters that end an authority come before the small letters
    apply eq_false_of_ne_true
    intro hend
    simp only [endsAuthority, Bool.or_eq_true, beq_iff_eq, Bool.and_eq_true] at hend
    rcases hend with ((hend | hend) | hend) | ⟨-, hend⟩ <;>
      exact absurd hlower (by rw [hend]; decide)
  · exact h

/-! ## Two readings of one url -/

/-- A text of slashes and a host begins with two slashes and a host exactly if the slashes are two. -/
theorem begins_behind_two_slashes {slashes : List Char} {c : Char}
    (hslashes : ∀ s ∈ slashes, isSlash s = true) (hhost : endsAuthority .web c = false)
    (rest : List Char) :
    ((['/', '/'].isPrefixOf? (slashes ++ c :: rest)).any fun rest =>
        rest.head?.any fun c => !endsAuthority .web c) = true ↔ slashes = ['/', '/'] := by
  have hne : '/' ≠ c := by
    rintro rfl
    exact absurd hhost (by decide)
  match slashes, hslashes with
  | [], _ => simp [List.isPrefixOf?, hne]
  | [s], _ => simp [List.isPrefixOf?, hne]
  | [s, t], hslashes =>
    rcases isSlash_iff.mp (hslashes s (by simp)) with rfl | rfl <;>
      rcases isSlash_iff.mp (hslashes t (by simp)) with rfl | rfl <;>
        simp [List.isPrefixOf?, hhost]
  | s :: t :: u :: more, hslashes =>
    have hthird : endsAuthority .web u = true := endsAuthority_of_slash (hslashes u (by simp))
    rcases isSlash_iff.mp (hslashes s (by simp)) with rfl | rfl <;>
      rcases isSlash_iff.mp (hslashes t (by simp)) with rfl | rfl <;>
        simp [List.isPrefixOf?, hthird]

/-- The slashes alone decide whether a url is absolute by its own text. -/
theorem Written.startsAbsolute_iff {url : String} {scheme slashes behind : List Char}
    (written : Written url scheme slashes behind) :
    startsAbsolute url = true ↔ slashes = ['/', '/'] := by
  obtain ⟨hurl, hweb, hslash, c, rest, rfl, hc⟩ := written
  have hslashes : ∀ s ∈ slashes, isSlash s = true := fun s hs => isSlash_iff.mpr (hslash s hs)
  have hsame : slashes.map Char.toLower = slashes :=
    (List.map_congr_left fun s hs => toLower_of_slash (hslashes s hs)).trans (List.map_id slashes)
  have hlower : url.toList.map Char.toLower =
      scheme.map Char.toLower ++ ':' :: (slashes ++ c.toLower :: rest.map Char.toLower) := by
    simp [hurl, hsame]
  have hbegins := begins_behind_two_slashes hslashes
    (endsAuthority_toLower (not_endsAuthority_iff.mpr hc)) (rest.map Char.toLower)
  generalize slashes ++ c.toLower :: rest.map Char.toLower = behind at hlower hbegins
  rw [← hbegins, startsAbsolute, hlower]
  rcases hweb with h | h <;> simp [h, List.isPrefixOf?]

/-- Between its scheme and its host nothing is lost when a url is cleaned up: with two slashes there
    it is read as it stands, too. -/
theorem Written.cleanUp_with_two_slashes {url : String} {scheme slashes behind : List Char}
    (written : Written url scheme slashes behind) (hends : hasBlankEnd url.toList = false)
    (hcontrol : url.toList.any isControl = false) :
    cleanUp (scheme ++ ':' :: '/' :: '/' :: behind) = scheme ++ ':' :: '/' :: '/' :: behind := by
  obtain ⟨hurl, hweb, -, c, rest, rfl, -⟩ := written
  rw [hurl] at hends hcontrol
  apply cleanUp_eq_self
  · cases scheme with
    | nil => exact absurd hweb (by decide)
    | cons first more =>
      have hsame := hasBlankEnd_between first c more
      calc hasBlankEnd (first :: more ++ ':' :: '/' :: '/' :: c :: rest)
          = hasBlankEnd (first :: more ++ [':', '/', '/'] ++ c :: rest) := by simp
        _ = hasBlankEnd (first :: more ++ (':' :: slashes) ++ c :: rest) := by rw [hsame, hsame]
        _ = hasBlankEnd (first :: more ++ ':' :: (slashes ++ c :: rest)) := by simp
        _ = false := hends
  · simp only [List.any_append, List.any_cons, Bool.or_eq_false_iff] at hcontrol ⊢
    exact ⟨hcontrol.1, by decide, by decide, by decide, hcontrol.2.2.2⟩

/-- **How an accepted url begins**: with a scheme of the web, slashes and a host. By its own text it
    is an absolute url exactly if the slashes are the usual two; what the check has seen, host
    included, is the url with two. -/
theorem accepted_begins {url : String} (haccepted : checkUrl url = .ok ()) :
    ∃ scheme slashes behind target, Written url scheme slashes behind ∧
      (startsAbsolute url = true ↔ slashes = ['/', '/']) ∧
      target.host ≠ none ∧ parse url = .ok target ∧
      parse (String.ofList (scheme ++ ':' :: '/' :: '/' :: behind)) = .ok target := by
  obtain ⟨-, -, hends, hcontrol, target, hparse, hnames⟩ := checkUrl_eq_ok_iff.mp haccepted
  have hclean := cleanUp_eq_self hends hcontrol
  obtain ⟨rest, hsplit⟩ := scheme_of_parse hparse
  obtain ⟨scheme, hscheme, hlower, hread⟩ := splitScheme?_eq_some.mp hsplit
  have hweb : scheme.map Char.toLower = "http".toList ∨ scheme.map Char.toLower = "https".toList :=
    hnames.imp (fun h => by rw [← hlower, h]) (fun h => by rw [← hlower, h])
  have hkind : SchemeKind.ofScheme (scheme.map Char.toLower) = .web := by
    rcases hweb with h | h <;> rw [h] <;> rfl
  have hauthority := parse_of_web hscheme hkind hread ▸ hparse
  obtain ⟨c, more, hbehind, hc⟩ := host_begins_of_readAuthority hauthority
  have written : Written url scheme (rest.takeWhile isSlash) (rest.dropWhile isSlash) :=
    { text := by rw [List.takeWhile_append_dropWhile, ← hread, hclean]
      web := hweb
      slash := fun s hs => isSlash_iff.mp (List.mem_takeWhile_imp hs)
      host := ⟨c, more, hbehind, not_endsAuthority_iff.mp hc⟩ }
  refine ⟨scheme, _, _, target, written, written.startsAbsolute_iff, ?_, hparse, ?_⟩
  · obtain ⟨host, hhost⟩ := host_of_readAuthority hauthority
    simp [hhost]
  · have hclean' := written.cleanUp_with_two_slashes hends hcontrol
    rw [parse_of_web hscheme hkind (by rw [String.toList_ofList, hclean'])]
    -- the two slashes are dropped, and none follows them
    have hdrop : ('/' :: '/' :: rest.dropWhile isSlash).dropWhile isSlash = rest.dropWhile isSlash := by
      rw [List.dropWhile_cons_of_pos rfl, List.dropWhile_cons_of_pos rfl]
      exact List.dropWhile_idempotent isSlash rest
    rwa [hdrop]

/-- The slashes may lean the other way. -/
theorem accepted_begins_with_backslashes :
    checkUrl "hTTp:\\\\host/app" = .ok () ∧
      ∃ scheme slashes behind target, Written "hTTp:\\\\host/app" scheme slashes behind ∧
        (startsAbsolute "hTTp:\\\\host/app" = true ↔ slashes = ['/', '/']) ∧
        target.host ≠ none ∧ parse "hTTp:\\\\host/app" = .ok target ∧
        parse (String.ofList (scheme ++ ':' :: '/' :: '/' :: behind)) = .ok target :=
  have haccepted : checkUrl "hTTp:\\\\host/app" = .ok () := by decide +kernel
  ⟨haccepted, accepted_begins haccepted⟩

/-- **An accepted url need not be absolute by its own text.** This one is read with the host `host`,
    but that stands where a relative url has its path. -/
theorem accepted_without_slashes :
    checkUrl "http:host/app" = .ok () ∧ startsAbsolute "http:host/app" = false ∧
      parse "http:host/app" = .ok ⟨"http", some (.domain "host"), none⟩ := by
  decide +kernel

end LinkLedger.Address
