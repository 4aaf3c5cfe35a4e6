import PamCertauth.HookValidation

/-!
# Templates as texts

A template is text in which `$$` stands for a dollar sign and a name in braces behind a
dollar sign for a variable (`hooks/placeholder.rs`). Doubling every dollar sign of a text
makes a template that is the text again, whatever stands before and behind it; so a text
can be written around a variable without a second meaning, and what the variable is
replaced by is copied and never read as a template.
-/

namespace PamCertauth.Hooks

/-- The variant as `Debug` prints it. -/
def PlaceholderVar.debug : PlaceholderVar → String
  | .pamUser => "PamUser"
  | .pamService => "PamService"
  | .hostId => "HostId"
  | .hostIdHash => "HostIdHash"
  | .hostIdSource => "HostIdSource"
  | .certCn => "CertCn"
  | .certSerial => "CertSerial"
  | .usbSerial => "UsbSerial"
  | .usbVidPid => "UsbVidPid"
  | .sessionId => "SessionId"

def missingValue (v : PlaceholderVar) : String :=
  configInvalidText ("missing placeholder value: " ++ v.debug)

def Template.render (parts : List TemplatePart) (resolve : PlaceholderVar → Option String) :
    Except String String :=
  renderParts missingValue resolve parts

/-- The text with each dollar sign doubled. -/
def doubleDollars (s : String) : String :=
  String.ofList (s.toList.flatMap fun c => if c = '$' then ['$', '$'] else [c])

/-- The placeholder for a name. -/
def placeholder (name : String) : String := "$\x7b" ++ name ++ "\x7d"

/-- The names that stand for a variable. -/
def placeholderNames : List String :=
  ["pam_user", "pam_service", "host_id", "host_id_hash", "host_id_source", "cert_cn",
    "cert_serial", "usb_serial", "usb_vid_pid", "session_id"]

theorem push_append_ofList (literal : String) (c : Char) (cs : List Char) :
    literal.push c ++ String.ofList cs = literal ++ String.ofList (c :: cs) := by
  apply String.toList_inj.mp
  simp

/-- Doubled text is read as the text, whatever follows it. -/
theorem parseTemplate_doubled (cs rest : List Char) (literal : String)
    (parts : List TemplatePart) :
    parseTemplate none literal parts
        ((cs.flatMap fun c => if c = '$' then ['$', '$'] else [c]) ++ rest) =
      parseTemplate none (literal ++ String.ofList cs) parts rest := by
  induction cs generalizing literal with
  | nil => simp
  | cons c cs ih =>
    rw [← push_append_ofList, ← ih]
    by_cases hc : c = '$'
    · subst hc
      rfl
    · rw [List.flatMap_cons, if_neg hc, List.singleton_append, List.cons_append, parseTemplate]
      · intro rest' h
        exact absurd h hc
      · intro rest' h
        exact absurd h hc

/-- The name of an open placeholder is read up to the closing brace. -/
theorem parseTemplate_name (cs rest : List Char) (hclosed : '\x7d' ∉ cs) (name literal : String)
    (parts : List TemplatePart) :
    parseTemplate (some name) literal parts (cs ++ '\x7d' :: rest) =
      parseTemplate (some (name ++ String.ofList cs)) literal parts ('\x7d' :: rest) := by
  induction cs generalizing name with
  | nil => simp
  | cons c cs ih =>
    rw [List.mem_cons, not_or] at hclosed
    rw [List.cons_append, parseTemplate, if_neg (Ne.symm hclosed.1), ih hclosed.2,
      push_append_ofList]

theorem mem_placeholderNames {name : String} {var : PlaceholderVar}
    (h : PlaceholderVar.fromStr name = .ok var) : name ∈ placeholderNames := by
  by_contra hname
  simp only [placeholderNames, List.mem_cons, List.not_mem_nil, or_false, not_or] at hname
  simp [PlaceholderVar.fromStr, hname] at h

theorem closed_of_mem_placeholderNames :
    ∀ name ∈ placeholderNames, name ≠ "" ∧ '\x7d' ∉ name.toList := by
  decide

/-- A known placeholder closes the literal before it and becomes a part. -/
theorem parseTemplate_placeholder {name : String} {var : PlaceholderVar}
    (h : PlaceholderVar.fromStr name = .ok var) (rest : List Char) (literal : String)
    (parts : List TemplatePart) :
    parseTemplate none literal parts ((placeholder name).toList ++ rest) =
      parseTemplate none "" (parts ++ literalPart literal ++ [.var var]) rest := by
  obtain ⟨hne, hclosed⟩ := closed_of_mem_placeholderNames name (mem_placeholderNames h)
  have htext : (placeholder name).toList ++ rest =
      '$' :: '\x7b' :: (name.toList ++ '\x7d' :: rest) := by
    simp [placeholder]
  have hopen : parseTemplate none literal parts ('$' :: '\x7b' :: (name.toList ++ '\x7d' :: rest)) =
      parseTemplate (some "") "" (parts ++ literalPart literal) (name.toList ++ '\x7d' :: rest) :=
    rfl
  rw [htext, hopen, parseTemplate_name name.toList rest hclosed, String.ofList_toList,
    String.empty_append, parseTemplate, if_pos rfl, if_neg hne, h]
  rfl

theorem parse_doubleDollars (s : String) : Template.parse (doubleDollars s) = .ok [.literal s] := by
  have h := parseTemplate_doubled s.toList [] "" []
  rw [List.append_nil, String.ofList_toList, String.empty_append] at h
  rw [Template.parse, doubleDollars, String.toList_ofList, h]
  rfl

theorem parse_around_placeholder (a b : String) {name : String} {var : PlaceholderVar}
    (h : PlaceholderVar.fromStr name = .ok var) :
    Template.parse (doubleDollars a ++ placeholder name ++ doubleDollars b) =
      .ok (literalPart a ++ [.var var] ++ literalPart b) := by
  have hafter := parseTemplate_doubled b.toList [] "" (literalPart a ++ [.var var])
  rw [List.append_nil, String.ofList_toList, String.empty_append] at hafter
  rw [Template.parse, String.toList_append, String.toList_append, doubleDollars, doubleDollars,
    String.toList_ofList, String.toList_ofList, List.append_assoc, parseTemplate_doubled,
    String.ofList_toList, String.empty_append, parseTemplate_placeholder h, List.nil_append, hafter,
    parseTemplate, if_neg (by simp)]

theorem foldlM_literalPart (resolve : PlaceholderVar → Option String) (out literal : String) :
    (literalPart literal).foldlM (renderPart missingValue resolve) out = .ok (out ++ literal) := by
  unfold literalPart
  split
  · next hempty =>
    subst hempty
    rw [String.append_empty]
    rfl
  · rfl

/-- The text before a variable is rendered; the variable comes next. -/
theorem render_around_var (resolve : PlaceholderVar → Option String) (a b : String)
    (var : PlaceholderVar) :
    Template.render (literalPart a ++ [.var var] ++ literalPart b) resolve =
      renderPart missingValue resolve a (.var var) >>=
        fun out => (literalPart b).foldlM (renderPart missingValue resolve) out := by
  have hvar : List.foldlM (renderPart missingValue resolve) a [.var var] =
      renderPart missingValue resolve a (.var var) := by
    rw [List.foldlM_cons, funext fun out => List.foldlM_nil, bind_pure]
  rw [Template.render, renderParts, List.foldlM_append, List.foldlM_append, foldlM_literalPart,
    String.empty_append, ← hvar]
  rfl

theorem render_around_var_of_some {resolve : PlaceholderVar → Option String} {var : PlaceholderVar}
    {v : String} (hv : resolve var = some v) (a b : String) :
    Template.render (literalPart a ++ [.var var] ++ literalPart b) resolve = .ok (a ++ v ++ b) := by
  rw [render_around_var, renderPart, hv]
  exact foldlM_literalPart resolve (a ++ v) b

theorem render_around_var_of_none {resolve : PlaceholderVar → Option String} {var : PlaceholderVar}
    (hv : resolve var = none) (a b : String) :
    Template.render (literalPart a ++ [.var var] ++ literalPart b) resolve =
      .error (missingValue var) := by
  rw [render_around_var, renderPart, hv]
  rfl

/-- A text with its dollar signs doubled is a template for the text, and so is one on each
side of a known placeholder. What the resolver answers is copied as it is, and a missing
value is the only way to fail. -/
theorem escaped_templates_render_literally :
    (∀ s, ∃ parts, Template.parse (doubleDollars s) = .ok parts ∧
      ∀ resolve, Template.render parts resolve = .ok s) ∧
    ∀ a b name var, PlaceholderVar.fromStr name = .ok var →
      ∃ parts, Template.parse (doubleDollars a ++ placeholder name ++ doubleDollars b) = .ok parts ∧
        (∀ resolve v, resolve var = some v →
          Template.render parts resolve = .ok (a ++ v ++ b)) ∧
        ∀ resolve, (∃ e, Template.render parts resolve = .error e) ↔ resolve var = none := by
  refine ⟨fun s => ⟨_, parse_doubleDollars s, fun resolve => ?_⟩, ?_⟩
  · simp [Template.render, renderParts, List.foldlM, renderPart, bind, Except.bind, pure, Except.pure]
  · intro a b name var hname
    refine ⟨_, parse_around_placeholder a b hname, ?_, ?_⟩
    · intro resolve v hv
      exact render_around_var_of_some hv a b
    · intro resolve
      cases hv : resolve var with
      | none =>
        rw [render_around_var_of_none hv]
        simp
      | some v =>
        rw [render_around_var_of_some hv]
        simp

/-- The name of a placeholder, and a value that looks like one. -/
theorem escaped_templates_render_literally_sample :
    PlaceholderVar.fromStr "cert_cn" = .ok .certCn ∧
    ∃ parts, Template.parse (doubleDollars "$" ++ placeholder "cert_cn" ++ doubleDollars "\x7b") =
        .ok parts ∧
      Template.render parts (fun _ => some "$\x7bpam_user\x7d") = .ok ("$" ++ "$\x7bpam_user\x7d" ++ "\x7b") := by
  obtain ⟨parts, hparse, hrender, -⟩ :=
    escaped_templates_render_literally.2 "$" "\x7b" "cert_cn" .certCn rfl
  exact ⟨rfl, parts, hparse, hrender _ _ rfl⟩

end PamCertauth.Hooks
