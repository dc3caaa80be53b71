import Mathlib.Data.List.Basic
import MacAccess.Proofs.Concealment
import MacAccess.Proofs.Separator

/-!
# What outlines tell of variables

An outline shows credentials and settings through the redaction, but a fixed environment shows its
variables as they are. Quoting is unique: no quoted text is the start of another, so the variables
can be read off the outline one by one. Two contexts that are alike thus have the same outline
exactly if their environments are the same, and so have two signers on them. A variable that holds a
secret is told apart however alike the secrets are.
-/

namespace MacAccess

variable {σ : Type}

namespace Text

/-! ## Code points in hexadecimal -/

theorem digitChar_inj : ∀ m < 16, ∀ n < 16, Nat.digitChar m = Nat.digitChar n → m = n := by decide

theorem digitChar_ne_brace : ∀ n < 16, Nat.digitChar n ≠ '\x7d' := by decide

theorem hexDigits_of_lt {n : Nat} (h : n < 16) : hexDigits n = [Nat.digitChar n] :=
  Nat.toDigits_of_lt_base h

theorem hexDigits_of_le {n : Nat} (h : 16 ≤ n) :
    hexDigits n = hexDigits (n / 16) ++ [Nat.digitChar (n % 16)] :=
  Nat.toDigits_of_base_le (by decide) h

theorem brace_notMem_hexDigits (n : Nat) : '\x7d' ∉ hexDigits n := by
  induction n using Nat.strong_induction_on with
  | _ n ih =>
      rcases Nat.lt_or_ge n 16 with hlt | hle
      · rw [hexDigits_of_lt hlt, List.mem_singleton]
        exact (digitChar_ne_brace n hlt).symm
      · rw [hexDigits_of_le hle, List.mem_append, List.mem_singleton, not_or]
        exact ⟨ih (n / 16) (by omega), (digitChar_ne_brace _ (by omega)).symm⟩

theorem hexDigits_injective : ∀ {m n : Nat}, hexDigits m = hexDigits n → m = n := by
  intro m
  induction m using Nat.strong_induction_on with
  | _ m ih =>
      intro n h
      have hlonger : ∀ (k : Nat) (x y : Char), hexDigits k ++ [y] ≠ [x] := by
        intro k x y heq
        obtain ⟨hempty, -⟩ : hexDigits k = [] ∧ y = x := by
          simpa [List.append_eq_singleton_iff] using heq
        exact Nat.toDigits_ne_nil hempty
      rcases Nat.lt_or_ge m 16 with hm | hm <;> rcases Nat.lt_or_ge n 16 with hn | hn
      · rw [hexDigits_of_lt hm, hexDigits_of_lt hn] at h
        exact digitChar_inj m hm n hn (List.cons.inj h).1
      · rw [hexDigits_of_lt hm, hexDigits_of_le hn] at h
        exact absurd h.symm (hlonger _ _ _)
      · rw [hexDigits_of_le hm, hexDigits_of_lt hn] at h
        exact absurd h (hlonger _ _ _)
      · rw [hexDigits_of_le hm, hexDigits_of_le hn] at h
        obtain ⟨hrest, hlast⟩ := List.append_inj' h rfl
        have hquotient := ih (m / 16) (by omega) hrest
        have hremainder := digitChar_inj _ (Nat.mod_lt m (by decide)) _ (Nat.mod_lt n (by decide))
          (List.cons.inj hlast).1
        omega

theorem codePointEscape_append (c : Char) (rest : List Char) :
    codePointEscape c ++ rest =
      '\\' :: 'u' :: '\x7b' :: (hexDigits c.toNat ++ '\x7d' :: rest) := by
  simp [codePointEscape]

/-! ## Escapes -/

/-- The characters with an escape of their own, with the mark behind the backslash. -/
def shortEscapes : List (Char × Char) :=
  [('\\', '\\'), ('"', '"'), ('\n', 'n'), ('\t', 't'), ('\r', 'r'), ('\x00', '0')]

/-- The three ways in which a character appears between quotes. -/
inductive Escape : Char → List Char → Prop
  | plain {c : Char} (hbackslash : c ≠ '\\') (hquote : c ≠ '"') : Escape c [c]
  | short {c mark : Char} (hmark : (c, mark) ∈ shortEscapes) : Escape c ['\\', mark]
  | point (c : Char) : Escape c (codePointEscape c)

theorem escape_escaped (c : Char) : Escape c (escaped c) := by
  unfold escaped
  split_ifs with hself hvisible hnewline htab hreturn hzero hunprintable
  · have hmark : (c, c) ∈ shortEscapes := by
      simp only [Bool.or_eq_true, beq_iff_eq] at hself
      rcases hself with rfl | rfl <;> decide
    exact .short hmark
  · simp only [Bool.or_eq_true, beq_iff_eq, not_or] at hself
    exact .plain hself.1 hself.2
  · obtain rfl := beq_iff_eq.mp hnewline
    exact .short (by decide)
  · obtain rfl := beq_iff_eq.mp htab
    exact .short (by decide)
  · obtain rfl := beq_iff_eq.mp hreturn
    exact .short (by decide)
  · obtain rfl := beq_iff_eq.mp hzero
    exact .short (by decide)
  · exact .point c
  · simp only [Bool.or_eq_true, beq_iff_eq, not_or] at hself
    exact .plain hself.1 hself.2

theorem marks_inj : ∀ e ∈ shortEscapes, ∀ e' ∈ shortEscapes, e.2 = e'.2 → e.1 = e'.1 := by decide

theorem mark_ne_u : ∀ e ∈ shortEscapes, e.2 ≠ 'u' := by decide

/-- No escape is the start of another one. -/
theorem Escape.append_inj {c c' : Char} {chars chars' rest rest' : List Char}
    (h : Escape c chars) (h' : Escape c' chars') (heq : chars ++ rest = chars' ++ rest') :
    c = c' ∧ rest = rest' := by
  cases h with
  | plain hbackslash hquote =>
      cases h' with
      | plain hbackslash' hquote' => exact List.cons.inj heq
      | short hmark' => exact absurd (List.cons.inj heq).1 hbackslash
      | point => exact absurd (List.cons.inj heq).1 hbackslash
  | short hmark =>
      cases h' with
      | plain hbackslash' hquote' => exact absurd (List.cons.inj heq).1.symm hbackslash'
      | short hmark' =>
          obtain ⟨hsame, hrest⟩ := List.cons.inj (List.cons.inj heq).2
          exact ⟨marks_inj _ hmark _ hmark' hsame, hrest⟩
      | point =>
          rw [codePointEscape_append] at heq
          exact absurd (List.cons.inj (List.cons.inj heq).2).1 (mark_ne_u _ hmark)
  | point =>
      rw [codePointEscape_append] at heq
      cases h' with
      | plain hbackslash' hquote' => exact absurd (List.cons.inj heq).1.symm hbackslash'
      | short hmark' =>
          exact absurd (List.cons.inj (List.cons.inj heq).2).1.symm (mark_ne_u _ hmark')
      | point =>
          rw [codePointEscape_append] at heq
          simp only [List.cons.injEq, true_and] at heq
          obtain ⟨hdigits, hrest⟩ := Separator.part_inj (brace_notMem_hexDigits _)
            (brace_notMem_hexDigits _) heq
          exact ⟨Char.toNat_inj.mp (hexDigits_injective hdigits), hrest⟩

/-- An escape does not start with the quote that ends the text. -/
theorem Escape.append_ne_quote {c : Char} {chars : List Char} (h : Escape c chars)
    (rest rest' : List Char) : chars ++ rest ≠ '"' :: rest' := by
  intro heq
  cases h with
  | plain hbackslash hquote => exact hquote (List.cons.inj heq).1
  | short hmark => exact absurd (List.cons.inj heq).1 (by decide)
  | point => exact absurd (List.cons.inj heq).1 (by decide)

/-! ## Quoted texts -/

theorem escapeds_inj : ∀ {cs cs' rest rest' : List Char},
    cs.flatMap escaped ++ '"' :: rest = cs'.flatMap escaped ++ '"' :: rest' →
      cs = cs' ∧ rest = rest'
  | [], [], _, _, heq => ⟨rfl, (List.cons.inj heq).2⟩
  | [], c' :: cs', _, _, heq => by
      rw [List.flatMap_cons, List.append_assoc] at heq
      exact absurd heq.symm ((escape_escaped c').append_ne_quote _ _)
  | c :: cs, [], _, _, heq => by
      rw [List.flatMap_cons, List.append_assoc] at heq
      exact absurd heq ((escape_escaped c).append_ne_quote _ _)
  | c :: cs, c' :: cs', _, _, heq => by
      rw [List.flatMap_cons, List.flatMap_cons, List.append_assoc, List.append_assoc] at heq
      obtain ⟨hc, htail⟩ := (escape_escaped c).append_inj (escape_escaped c') heq
      obtain ⟨hcs, hrest⟩ := escapeds_inj htail
      exact ⟨by rw [hc, hcs], hrest⟩

theorem toList_quoted_append (s : String) (rest : List Char) :
    (quoted s).toList ++ rest = '"' :: (s.toList.flatMap escaped ++ '"' :: rest) := by
  simp [quoted]

/-- **A quoted text is told from what follows it.** -/
theorem quoted_append_inj {s s' : String} {rest rest' : List Char}
    (heq : (quoted s).toList ++ rest = (quoted s').toList ++ rest') : s = s' ∧ rest = rest' := by
  rw [toList_quoted_append, toList_quoted_append] at heq
  obtain ⟨hchars, hrest⟩ := escapeds_inj (List.cons.inj heq).2
  exact ⟨String.toList_inj.mp hchars, hrest⟩

end Text

/-! ## Variables -/

namespace Environment

/-- How a variable appears in an outline. -/
def entry (v : String × String) : String := Text.quoted v.1 ++ ": " ++ Text.quoted v.2

theorem entry_append_inj {v v' : String × String} {rest rest' : List Char}
    (heq : (entry v).toList ++ rest = (entry v').toList ++ rest') : v = v' ∧ rest = rest' := by
  simp only [entry, String.toList_append, List.append_assoc] at heq
  obtain ⟨hname, hvalue⟩ := Text.quoted_append_inj heq
  obtain ⟨hvalue, hrest⟩ := Text.quoted_append_inj (List.append_cancel_left hvalue)
  exact ⟨Prod.ext hname hvalue, hrest⟩

/-- An entry starts with a quote, by which it is told from the end of the map. -/
theorem entry_append_ne_brace (v : String × String) (rest : List Char) {rest' : List Char} :
    (entry v).toList ++ rest ≠ '\x7d' :: rest' := by
  intro heq
  simp only [entry, String.toList_append, List.append_assoc, Text.toList_quoted_append] at heq
  exact absurd (List.cons.inj heq).1 (by decide)

/-- What follows the first entry of a map: the others, each behind a comma, and the brace. -/
def others : List (String × String) → List Char
  | [] => ['\x7d']
  | v :: vars => ',' :: ' ' :: ((entry v).toList ++ others vars)

theorem others_injective : ∀ {vars vars' : List (String × String)},
    others vars = others vars' → vars = vars'
  | [], [], _ => rfl
  | [], _ :: _, heq => absurd (List.cons.inj heq).1 (by decide)
  | _ :: _, [], heq => absurd (List.cons.inj heq).1 (by decide)
  | v :: vars, v' :: vars', heq => by
      simp only [others, List.cons.injEq, true_and] at heq
      obtain ⟨hv, hvars⟩ := entry_append_inj heq
      rw [hv, others_injective hvars]

/-- How the variables appear together. -/
def shown (vars : List (String × String)) : String :=
  Outline.mapping (vars.map fun v => (Text.quoted v.1, Text.quoted v.2))

theorem intercalate_entries (v : String × String) (vars : List (String × String)) :
    List.intercalate [',', ' '] ((v :: vars).map fun v => (entry v).toList) ++ ['\x7d'] =
      (entry v).toList ++ others vars := by
  induction vars generalizing v with
  | nil => simp [others]
  | cons w vars ih =>
      have hw := ih w
      rw [List.map_cons] at hw
      rw [List.map_cons, List.map_cons, List.intercalate_cons_cons, List.append_assoc, hw, others,
        List.append_assoc]
      rfl

theorem toList_shown_cons (v : String × String) (vars : List (String × String)) :
    (shown (v :: vars)).toList = '\x7b' :: ((entry v).toList ++ others vars) := by
  rw [← intercalate_entries, shown, Outline.mapping, List.map_map, String.toList_append,
    String.toList_append, String.toList_intercalate, List.map_map]
  rfl

/-- **The variables are read off their outline**, each with its name and its value. -/
theorem shown_injective {vars vars' : List (String × String)}
    (heq : shown vars = shown vars') : vars = vars' := by
  have hlist := congrArg String.toList heq
  cases vars with
  | nil =>
      cases vars' with
      | nil => rfl
      | cons v' vars' =>
          rw [toList_shown_cons] at hlist
          exact absurd (List.cons.inj hlist).2.symm (entry_append_ne_brace v' _)
  | cons v vars =>
      rw [toList_shown_cons] at hlist
      cases vars' with
      | nil => exact absurd (List.cons.inj hlist).2 (entry_append_ne_brace v _)
      | cons v' vars' =>
          rw [toList_shown_cons] at hlist
          obtain ⟨hv, hvars⟩ := entry_append_inj (List.cons.inj hlist).2
          rw [hv, others_injective hvars]

end Environment

/-! ## Outlines -/

/-- What stands around one item of a list does not depend on the item, -/
theorem intercalate_around (separator : String) : ∀ before after : List String,
    ∃ left right, ∀ item, separator.intercalate (before ++ item :: after) = left ++ item ++ right
  | [], [] => ⟨"", "", by simp⟩
  | [], next :: after => by
      refine ⟨"", separator ++ separator.intercalate (next :: after), fun item => ?_⟩
      rw [List.nil_append, String.intercalate_cons_cons, String.empty_append, String.append_assoc]
  | first :: before, after => by
      obtain ⟨left, right, hitem⟩ := intercalate_around separator before after
      refine ⟨first ++ separator ++ left, right, fun item => ?_⟩
      rw [List.cons_append, String.intercalate_cons_of_ne_nil (by simp), hitem]
      simp only [String.append_assoc]

/-- and what stands around one field of a record does not depend on its value. -/
theorem Outline.record_around (name field : String) (before after : List (String × String)) :
    ∃ left right, ∀ value,
      record name (before ++ (field, value) :: after) = left ++ value ++ right := by
  obtain ⟨left, right, hitem⟩ := intercalate_around ", " (before.map fun f => f.1 ++ ": " ++ f.2)
    (after.map fun f => f.1 ++ ": " ++ f.2)
  refine ⟨name ++ " \x7b " ++ left ++ field ++ ": ", right ++ " \x7d", fun value => ?_⟩
  unfold record
  split
  · next hnone => exact absurd hnone (by simp)
  · rw [List.map_append, List.map_cons, hitem]
    simp only [String.append_assoc]

/-- **A field is told from the outline of a record** whose other fields are known. -/
theorem Outline.record_inj {name field value value' : String}
    (before after : List (String × String))
    (heq : record name (before ++ (field, value) :: after) =
      record name (before ++ (field, value') :: after)) : value = value' := by
  obtain ⟨left, right, haround⟩ := record_around name field before after
  rw [haround, haround, String.append_left_inj, String.append_right_inj] at heq
  exact heq

theorem Environment.Alike.eq_of_outline {e e' : Environment} (h : e.Alike e')
    (heq : e.outline = e'.outline) : e = e' := by
  cases h with
  | empty => rfl
  | process => rfl
  | @fixed home vars vars' hcredential hothers =>
      have hvars : shown vars = shown vars' :=
        Outline.record_inj [("home_dir", Outline.optional (home.map Text.quotedPath))] [] heq
      rw [shown_injective hvars]

/-- The outline of a context leaves nothing open among those that are alike. -/
theorem Context.Alike.eq_of_outline {c c' : Context} (h : c.Alike c')
    (heq : c.outline = c'.outline) : c = c' := by
  rcases c with ⟨files, environment, clock, nonces⟩
  rcases c' with ⟨files', environment', clock', nonces'⟩
  obtain rfl : files = files' := h.files
  obtain rfl : clock = clock' := h.clock
  obtain rfl : nonces = nonces' := h.nonces
  have henvironment : environment.outline = environment'.outline :=
    Outline.record_inj [("fs", files.outline)]
      [("clock", clock.outline), ("nonce", nonces.outline)] heq
  obtain rfl : environment = environment' := h.environment.eq_of_outline henvironment
  rfl

/-- The outline of a signer shows its context and hides what is secret in its provider. -/
theorem Signer.outline_eq_iff {s s' : Signer σ} (hprovider : s.provider.Alike s'.provider) :
    s.outline = s'.outline ↔ s.context.outline = s'.context.outline := by
  unfold outline
  rw [hprovider.outline_eq]
  constructor
  · intro heq
    exact Outline.record_inj [] _ heq
  · intro heq
    rw [heq]

/-- **A secret is shown in full if a fixed environment holds it**, and only then. Two signers that
are alike have the same outline exactly if their contexts are the same, whatever the secrets of
their providers and settings are, and the outlines of two contexts that are alike are the same only
if the contexts are. Contexts without variables and those on the variables of the host are the same
if they are alike. But wherever a variable of the context itself holds a different secret, both
outlines are different too. -/
theorem Signer.outline_discloses {s s' : Signer σ} (hcontext : s.context.Alike s'.context)
    (hprovider : s.provider.Alike s'.provider) :
    (s.context.outline = s'.context.outline ↔ s.context = s'.context) ∧
    (s.outline = s'.outline ↔ s.context = s'.context) ∧
    ((∀ home vars, s.context.environment ≠ .fixed home vars) → s.context = s'.context) ∧
    ∀ h : Host σ, s.context.variableText? h Variable.credential ≠
        s'.context.variableText? h Variable.credential →
      s.context.outline ≠ s'.context.outline ∧ s.outline ≠ s'.outline := by
  have hiff : s.context.outline = s'.context.outline ↔ s.context = s'.context := by
    constructor
    · exact hcontext.eq_of_outline
    · intro hsame
      rw [hsame]
  have hsigner : s.outline = s'.outline ↔ s.context = s'.context :=
    (outline_eq_iff hprovider).trans hiff
  refine ⟨hiff, hsigner, ?_, ?_⟩
  · intro hfixed
    have henvironment := hcontext.environment
    refine hcontext.eq_of_outline ?_
    unfold Context.outline
    rw [hcontext.files, hcontext.clock, hcontext.nonces]
    generalize s.context.environment = e, s'.context.environment = e' at hfixed henvironment ⊢
    cases henvironment with
    | empty => rfl
    | process => rfl
    | fixed home => exact absurd rfl (hfixed home _)
  · intro h hsecret
    have hother : s.context ≠ s'.context := by
      intro hsame
      rw [hsame] at hsecret
      exact hsecret rfl
    exact ⟨mt hiff.mp hother, mt hsigner.mp hother⟩

theorem Signer.outline_discloses_layered :
    (layeredSigner "apikey" "key-0123456789-end").provider.Alike
        (layeredSigner "sesame" "key-and another-end").provider ∧
      (layeredSigner "apikey" "key-0123456789-end").outline =
        (layeredSigner "sesame" "key-and another-end").outline := by
  have hcontext : (layeredSigner "apikey" "key-0123456789-end").context.Alike
      (layeredSigner "sesame" "key-and another-end").context := ⟨rfl, .process, rfl, rfl⟩
  obtain ⟨-, hsigner, -, -⟩ := Signer.outline_discloses hcontext provider_layeredSigner_alike
  exact ⟨provider_layeredSigner_alike, hsigner.mpr rfl⟩

/-- A signer for the usual places with a secret in a fixed environment. -/
def exportingSigner (secret : String) : Signer Unit where
  context := { Context.bare with environment := .fixed none [("BRACKET_CREDENTIAL", secret)] }
  provider := .standard {}

theorem Signer.outline_exportingSigner :
    (exportingSigner "apikey").context.Alike (exportingSigner "sesame").context ∧
      (exportingSigner "apikey").provider.Alike (exportingSigner "sesame").provider ∧
      (exportingSigner "apikey").context.outline ≠ (exportingSigner "sesame").context.outline ∧
      (exportingSigner "apikey").outline ≠ (exportingSigner "sesame").outline := by
  have henvironment : (exportingSigner "apikey").context.environment.Alike
      (exportingSigner "sesame").context.environment := by
    refine .fixed none (.some Secret.alike_short) ?_
    intro name hname
    have hother : (name == "BRACKET_CREDENTIAL") = false := beq_eq_false_iff_ne.mpr hname
    simp [List.lookup_cons, hother]
  have hsettings : Settings.Alike {} {} := ⟨rfl, .none, rfl, rfl⟩
  refine ⟨⟨rfl, henvironment, rfl, rfl⟩, ?_, by decide +kernel, by decide +kernel⟩
  exact .layered (.cons (.environment hsettings) (.cons (.profile hsettings) .nil))

end MacAccess
