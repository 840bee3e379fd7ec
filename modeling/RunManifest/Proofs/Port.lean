import Mathlib.Data.List.Forall2
import RunManifest.Command
import RunManifest.Proofs.Outcomes
import RunManifest.Proofs.Text

/-!
# Written port mappings

A text is a port mapping if it is two ports with `:` between them, alone or with `/` and the name of
a protocol behind them.  Any other text has one first fault, which is the one that is reported.  In
particular a mapping that is written out in full is read back, whatever protocol is the default.
-/

namespace RunManifest

namespace Protocol

variable {protocol : Protocol} {text : Text}

/-- A text is the name of a protocol, with each letter of it in either case. -/
def IsNamed (protocol : Protocol) (text : Text) : Prop :=
  List.Forall₂ (fun character letter => character = letter ∨ character = letter.toLower) text
    protocol.name

theorem map_toUpper_eq_iff {name : Text} (capital : ∀ letter ∈ name, letter.isUpper = true) :
    text.map Char.toUpper = name ↔
      List.Forall₂ (fun character letter => character = letter ∨ character = letter.toLower)
        text name := by
  induction text generalizing name with
  | nil =>
      cases name <;> simp
  | cons character rest inductionHypothesis =>
      cases name with
      | nil =>
          simp
      | cons letter others =>
          rw [List.forall_mem_cons] at capital
          rw [List.map_cons, List.cons_eq_cons, List.forall₂_cons,
            Text.toUpper_eq_iff capital.1, inductionHypothesis capital.2]

theorem isUpper_of_mem_name : ∀ letter ∈ protocol.name, letter.isUpper = true := by
  cases protocol with
  | tcp =>
      exact List.all_eq_true.mp rfl
  | udp =>
      exact List.all_eq_true.mp rfl

theorem ofName?_eq_some_iff : ofName? text = some protocol ↔ protocol.IsNamed text := by
  rw [IsNamed, ← map_toUpper_eq_iff isUpper_of_mem_name, ofName?]
  by_cases isTcp : text.map Char.toUpper = tcp.name
  · rw [if_pos isTcp, isTcp]
    cases protocol with
    | tcp =>
        decide
    | udp =>
        decide
  · rw [if_neg isTcp]
    by_cases isUdp : text.map Char.toUpper = udp.name
    · rw [if_pos isUdp, isUdp]
      cases protocol with
      | tcp =>
          decide
      | udp =>
          decide
    · rw [if_neg isUdp]
      cases protocol with
      | tcp =>
          simp [isTcp]
      | udp =>
          simp [isUdp]

theorem ofName?_eq_none_iff : ofName? text = none ↔ ∀ protocol : Protocol, ¬protocol.IsNamed text := by
  rw [Option.eq_none_iff_forall_ne_some]
  simp only [ne_eq, ofName?_eq_some_iff]

theorem isNamed_name : protocol.IsNamed protocol.name :=
  List.forall₂_same.mpr fun _ _ => .inl rfl

end Protocol

namespace PortMapping

variable {default protocol : Protocol} {mapping : PortMapping} {port : UInt16}
variable {text digits ports container host name : Text} {error : ValidationError} {fault : Fault}

/-- A text is a decimal numeral of a port, perhaps with zeros in front.  No port is above 65535, and
zero is none. -/
structure IsNumeral (port : UInt16) (digits : Text) : Prop where
  present : digits ≠ []
  isDigit : ∀ digit ∈ digits, digit.isDigit = true
  value : Nat.ofDigitChars 10 digits 0 = port.toNat
  positive : 1 ≤ port.toNat

/-- A text is a numeral of a port, with or without a plus sign. -/
inductive Spells (port : UInt16) : Text → Prop
  | unsigned {digits : Text} (numeral : IsNumeral port digits) : Spells port digits
  | signed {digits : Text} (numeral : IsNumeral port digits) : Spells port ('+' :: digits)

/-- A port is a number from 1 to 65535. -/
theorem ofNumeral_eq_some_iff :
    (match Text.numeral? 10 digits with
      | none => none
      | some number =>
          if 1 ≤ number ∧ number ≤ 65535 then some (UInt16.ofNat number) else none) =
        some port ↔ IsNumeral port digits := by
  have bounded := port.toNat_lt
  constructor
  · intro found
    cases read : Text.numeral? 10 digits with
    | none =>
        rw [read] at found
        cases found
    | some number =>
        simp only [read] at found
        split_ifs at found with inRange
        obtain ⟨present, isDigit, value⟩ := Text.numeral?_ten_eq_some_iff.mp read
        have same : port.toNat = number := by
          rw [← Option.some.inj found, UInt16.toNat_ofNat']
          omega
        exact ⟨present, isDigit, value.trans same.symm, same ▸ inRange.1⟩
  · intro numeral
    have read : Text.numeral? 10 digits = some port.toNat :=
      Text.numeral?_ten_eq_some_iff.mpr ⟨numeral.present, numeral.isDigit, numeral.value⟩
    have positive := numeral.positive
    simp only [read]
    rw [if_pos ⟨positive, by omega⟩, UInt16.ofNat_toNat]

theorem IsNumeral.not_mem {mark : Char} (numeral : IsNumeral port digits)
    (noDigit : mark.isDigit = false) : mark ∉ digits := by
  intro member
  have isDigit := numeral.isDigit mark member
  rw [noDigit] at isDigit
  cases isDigit

theorem Spells.not_mem {mark : Char} (spells : Spells port text) (noDigit : mark.isDigit = false)
    (noSign : mark ≠ '+') : mark ∉ text := by
  cases spells with
  | unsigned numeral =>
      exact numeral.not_mem noDigit
  | signed numeral =>
      simp [noSign, numeral.not_mem noDigit]

theorem Spells.ne_nil (spells : Spells port text) : text ≠ [] := by
  cases spells with
  | unsigned numeral =>
      exact numeral.present
  | signed numeral =>
      exact List.cons_ne_nil _ _

theorem portNumber?_eq_some_iff : portNumber? text = some port ↔ Spells port text := by
  by_cases signed : ∃ digits, text = '+' :: digits
  · obtain ⟨digits, rfl⟩ := signed
    rw [portNumber?]
    apply ofNumeral_eq_some_iff.trans
    constructor
    · exact .signed
    · intro spells
      cases spells with
      | unsigned numeral =>
          exact absurd List.mem_cons_self (numeral.not_mem (by decide))
      | signed numeral =>
          exact numeral
  · rw [not_exists] at signed
    rw [portNumber?]
    · apply ofNumeral_eq_some_iff.trans
      constructor
      · exact .unsigned
      · intro spells
        cases spells with
        | unsigned numeral =>
            exact numeral
        | signed numeral =>
            exact absurd rfl (signed _)
    · exact signed

theorem readPort_eq_ok_iff {side : PortSide} :
    readPort side text = .ok port ↔ Spells port text := by
  rw [readPort, ← portNumber?_eq_some_iff]
  cases portNumber? text <;> simp

theorem readPort_eq_error_iff {side : PortSide} :
    readPort side text = .error error ↔
      (∀ port, ¬Spells port text) ∧ error = ⟨operation, .invalidPort side text⟩ := by
  simp only [← portNumber?_eq_some_iff]
  rw [readPort]
  cases portNumber? text with
  | none =>
      simp [eq_comm]
  | some port =>
      simp

/-- What stands before the first `/` of a text, and the protocol that is named behind it. -/
inductive HasPorts : Text → Text → Option Protocol → Prop
  | bare {ports : Text} (whole : '/' ∉ ports) : HasPorts ports ports none
  | named {ports name : Text} {protocol : Protocol} (whole : '/' ∉ ports)
      (isNamed : protocol.IsNamed name) : HasPorts (ports ++ '/' :: name) ports (some protocol)

/-- What stands before the first `:` and behind it.  Without a `:` nothing stands behind it. -/
inductive HasSides : Text → Text → Text → Prop
  | alone {container : Text} (whole : ':' ∉ container) : HasSides container container []
  | both {container host : Text} (whole : ':' ∉ container) :
      HasSides (container ++ ':' :: host) container host

theorem splitProtocol_of_hasPorts {named? : Option Protocol}
    (hasPorts : HasPorts text ports named?) :
    splitProtocol default text = .ok (ports, named?.getD default) := by
  cases hasPorts with
  | bare whole =>
      rw [splitProtocol, Text.splitOnce_eq_none_iff.mpr whole]
      rfl
  | named whole isNamed =>
      rw [splitProtocol, Text.splitOnce_eq_some_iff.mpr ⟨rfl, whole⟩]
      simp only [Protocol.ofName?_eq_some_iff.mpr isNamed, Option.getD_some]

theorem splitProtocol_of_unknown (whole : '/' ∉ ports)
    (unknown : ∀ protocol : Protocol, ¬protocol.IsNamed name) :
    splitProtocol default (ports ++ '/' :: name) =
      .error ⟨operation, .unsupportedProtocol name⟩ := by
  rw [splitProtocol, Text.splitOnce_eq_some_iff.mpr ⟨rfl, whole⟩]
  simp only [Protocol.ofName?_eq_none_iff.mpr unknown]

theorem splitOnce_of_hasSides (hasSides : HasSides ports container host) :
    (Text.splitOnce ':' ports).getD (ports, []) = (container, host) := by
  cases hasSides with
  | alone whole =>
      rw [Text.splitOnce_eq_none_iff.mpr whole]
      rfl
  | both whole =>
      rw [Text.splitOnce_eq_some_iff.mpr ⟨rfl, whole⟩]
      rfl

theorem HasPorts.ne_nil {named? : Option Protocol} (hasPorts : HasPorts text ports named?)
    (present : ports ≠ []) : text ≠ [] := by
  cases hasPorts with
  | bare whole =>
      exact present
  | named whole isNamed =>
      simp

theorem HasSides.ne_nil (hasSides : HasSides ports container host) (present : container ≠ []) :
    ports ≠ [] := by
  cases hasSides with
  | alone whole =>
      exact present
  | both whole =>
      simp

theorem exists_hasSides (ports : Text) : ∃ container host, HasSides ports container host := by
  cases cut : Text.splitOnce ':' ports with
  | none =>
      exact ⟨ports, [], .alone (Text.splitOnce_eq_none_iff.mp cut)⟩
  | some parts =>
      obtain ⟨rfl, whole⟩ := Text.splitOnce_eq_some_iff.mp cut
      exact ⟨parts.1, parts.2, .both whole⟩

/-- A text is one of the written forms of a mapping. -/
inductive Writes (default : Protocol) (mapping : PortMapping) : Text → Prop
  | bare {container host : Text} (spellsContainer : Spells mapping.containerPort container)
      (spellsHost : Spells mapping.hostPort host) (isDefault : mapping.protocol = default) :
      Writes default mapping (container ++ ':' :: host)
  | named {container host name : Text} (spellsContainer : Spells mapping.containerPort container)
      (spellsHost : Spells mapping.hostPort host) (isNamed : mapping.protocol.IsNamed name) :
      Writes default mapping (container ++ ':' :: host ++ '/' :: name)

/-- The first fault of a text that is no mapping. -/
inductive Fails : Text → Fault → Prop
  | empty : Fails [] (.emptyText "portMapText".toList)
  | protocol {ports name : Text} (whole : '/' ∉ ports)
      (unknown : ∀ protocol : Protocol, ¬protocol.IsNamed name) :
      Fails (ports ++ '/' :: name) (.unsupportedProtocol name)
  | container {text ports container host : Text} {named? : Option Protocol} (present : text ≠ [])
      (hasPorts : HasPorts text ports named?) (hasSides : HasSides ports container host)
      (noPort : ∀ port, ¬Spells port container) :
      Fails text (.invalidPort .container container)
  | host {text ports container host : Text} {named? : Option Protocol} {port : UInt16}
      (hasPorts : HasPorts text ports named?) (hasSides : HasSides ports container host)
      (spells : Spells port container) (noPort : ∀ port, ¬Spells port host) :
      Fails text (.invalidPort .host host)

theorem writes_of_parts {named? : Option Protocol} {containerPort hostPort : UInt16}
    (hasPorts : HasPorts text ports named?) (hasSides : HasSides ports container host)
    (spellsContainer : Spells containerPort container) (spellsHost : Spells hostPort host) :
    Writes default ⟨containerPort, hostPort, named?.getD default⟩ text := by
  cases hasSides with
  | alone whole =>
      exact absurd rfl spellsHost.ne_nil
  | both whole =>
      cases hasPorts with
      | bare noSlash =>
          exact .bare spellsContainer spellsHost rfl
      | named noSlash isNamed =>
          exact .named spellsContainer spellsHost isNamed

theorem Writes.exists_parts (writes : Writes default mapping text) :
    ∃ ports container host named?, HasPorts text ports named? ∧ HasSides ports container host ∧
      Spells mapping.containerPort container ∧ Spells mapping.hostPort host ∧
      named?.getD default = mapping.protocol := by
  -- Neither numeral holds a mark, so that the marks between the parts are the first ones.
  have noSlash : ∀ {container host : Text}, Spells mapping.containerPort container →
      Spells mapping.hostPort host → '/' ∉ container ++ ':' :: host := by
    intro container host spellsContainer spellsHost
    simp [spellsContainer.not_mem, spellsHost.not_mem]
  cases writes with
  | bare spellsContainer spellsHost isDefault =>
      exact ⟨_, _, _, none, .bare (noSlash spellsContainer spellsHost),
        .both (spellsContainer.not_mem (by decide) (by decide)), spellsContainer, spellsHost,
        isDefault.symm⟩
  | named spellsContainer spellsHost isNamed =>
      exact ⟨_, _, _, some mapping.protocol,
        .named (noSlash spellsContainer spellsHost) isNamed,
        .both (spellsContainer.not_mem (by decide) (by decide)), spellsContainer, spellsHost, rfl⟩

/-- Every text is written for a mapping or has a first fault. -/
theorem writes_or_fails (default : Protocol) (text : Text) :
    (∃ mapping, Writes default mapping text) ∨ ∃ fault, Fails text fault := by
  by_cases present : text = []
  · subst present
    exact .inr ⟨_, .empty⟩
  have judged : ∀ {ports named?}, HasPorts text ports named? →
      (∃ mapping, Writes default mapping text) ∨ ∃ fault, Fails text fault := by
    intro ports named? hasPorts
    obtain ⟨container, host, hasSides⟩ := exists_hasSides ports
    by_cases containerPort : ∃ port, Spells port container
    · obtain ⟨port, spellsContainer⟩ := containerPort
      by_cases hostPort : ∃ port, Spells port host
      · obtain ⟨other, spellsHost⟩ := hostPort
        exact .inl ⟨_, writes_of_parts hasPorts hasSides spellsContainer spellsHost⟩
      · exact .inr ⟨_, .host hasPorts hasSides spellsContainer (not_exists.mp hostPort)⟩
    · exact .inr ⟨_, .container present hasPorts hasSides (not_exists.mp containerPort)⟩
  cases cut : Text.splitOnce '/' text with
  | none =>
      exact judged (.bare (Text.splitOnce_eq_none_iff.mp cut))
  | some parts =>
      obtain ⟨rfl, whole⟩ := Text.splitOnce_eq_some_iff.mp cut
      by_cases known : ∃ protocol : Protocol, protocol.IsNamed parts.2
      · obtain ⟨protocol, isNamed⟩ := known
        exact judged (.named whole isNamed)
      · exact .inr ⟨_, .protocol whole (not_exists.mp known)⟩

/-! ## Reading -/

theorem parse_of_parts {named? : Option Protocol} (present : text ≠ [])
    (hasPorts : HasPorts text ports named?) (hasSides : HasSides ports container host) :
    parse default text =
      (do
        let containerPort ← readPort .container container
        let hostPort ← readPort .host host
        return ⟨containerPort, hostPort, named?.getD default⟩) := by
  rw [parse]
  · simp only [splitProtocol_of_hasPorts hasPorts, bind, Except.bind,
      splitOnce_of_hasSides hasSides]
  · exact present

theorem parse_of_writes (writes : Writes default mapping text) :
    parse default text = .ok mapping := by
  obtain ⟨ports, container, host, named?, hasPorts, hasSides, spellsContainer, spellsHost,
    protocol⟩ := writes.exists_parts
  have present : text ≠ [] := hasPorts.ne_nil (hasSides.ne_nil spellsContainer.ne_nil)
  rw [parse_of_parts present hasPorts hasSides, readPort_eq_ok_iff.mpr spellsContainer,
    readPort_eq_ok_iff.mpr spellsHost, protocol]
  rfl

theorem parse_of_fails (fails : Fails text fault) :
    parse default text = .error ⟨operation, fault⟩ := by
  cases fails with
  | empty =>
      rfl
  | protocol whole unknown =>
      rw [parse]
      · rw [splitProtocol_of_unknown whole unknown]
        rfl
      · simp
  | container present hasPorts hasSides noPort =>
      rw [parse_of_parts present hasPorts hasSides, readPort_eq_error_iff.mpr ⟨noPort, rfl⟩]
      rfl
  | host hasPorts hasSides spells noPort =>
      have present : text ≠ [] := hasPorts.ne_nil (hasSides.ne_nil spells.ne_nil)
      rw [parse_of_parts present hasPorts hasSides, readPort_eq_ok_iff.mpr spells,
        readPort_eq_error_iff.mpr ⟨noPort, rfl⟩]
      rfl

theorem parse_outcomes (default : Protocol) (text : Text) :
    (∀ {mapping}, parse default text = .ok mapping ↔ Writes default mapping text) ∧
      ∀ {error}, parse default text = .error error ↔
        ∃ fault, Fails text fault ∧ error = ⟨operation, fault⟩ := by
  apply Outcomes.iff_of_total
  · intro mapping writes
    exact parse_of_writes writes
  · intro error failed
    obtain ⟨fault, fails, rfl⟩ := failed
    exact parse_of_fails fails
  · rcases writes_or_fails default text with writes | ⟨fault, fails⟩
    · exact .inl writes
    · exact .inr ⟨_, fault, fails, rfl⟩

theorem Writes.of_slash {other : Protocol} (writes : Writes default mapping text)
    (slash : '/' ∈ text) : Writes other mapping text := by
  cases writes with
  | bare spellsContainer spellsHost isDefault =>
      simp [spellsContainer.not_mem, spellsHost.not_mem] at slash
  | named spellsContainer spellsHost isNamed =>
      exact .named spellsContainer spellsHost isNamed

/-- A protocol that is named leaves nothing to the default. -/
theorem parse_of_slash (slash : '/' ∈ text) (other : Protocol) :
    parse other text = parse default text := by
  rcases writes_or_fails default text with ⟨mapping, writes⟩ | ⟨fault, fails⟩
  · rw [parse_of_writes writes, parse_of_writes (writes.of_slash slash)]
  · rw [parse_of_fails fails, parse_of_fails fails]

/-- A text is read as a mapping exactly if it is written for it, and its first fault is reported
otherwise.  The default counts only where no protocol is named. -/
theorem parse_follows_grammar (default : Protocol) (text : Text) :
    (∀ mapping, parse default text = .ok mapping ↔ Writes default mapping text) ∧
    (∀ error, parse default text = .error error ↔
      ∃ fault, Fails text fault ∧ error = ⟨operation, fault⟩) ∧
    ('/' ∈ text → ∀ other, parse other text = parse default text) :=
  ⟨fun _ => (parse_outcomes default text).1, fun _ => (parse_outcomes default text).2,
    fun slash => parse_of_slash slash⟩

def ornate : Text :=
  "+0080:65535/uDp".toList

theorem parse_follows_grammar_ornate :
    Writes .tcp ⟨80, 65535, .udp⟩ ornate ∧ '/' ∈ ornate ∧ parse .udp ornate = parse .tcp ornate := by
  obtain ⟨accepts, _, ignoresDefault⟩ := parse_follows_grammar .tcp ornate
  exact ⟨(accepts _).mp (by decide), by decide, ignoresDefault (by decide) .udp⟩

example : parse .tcp "80:1:2/sctp/x".toList =
    .error ⟨operation, .unsupportedProtocol "sctp/x".toList⟩ := by
  decide

example : parse .tcp "0:1:2/tcp".toList =
    .error ⟨operation, .invalidPort .container "0".toList⟩ := by
  decide

/-- A mapping with nothing left to a default: `containerPort:hostPort/protocol`. -/
def spelling (mapping : PortMapping) : Text :=
  Text.decimal mapping.containerPort.toNat ++
    ':' :: (Text.decimal mapping.hostPort.toNat ++ '/' :: mapping.protocol.name)

theorem spells_decimal (positive : port ≠ 0) : Spells port (Text.decimal port.toNat) := by
  have notZero : port.toNat ≠ 0 := fun zero => positive (UInt16.toNat_inj.mp zero)
  obtain ⟨present, isDigit, value⟩ :=
    Text.numeral?_ten_eq_some_iff.mp (Text.numeral?_decimal port.toNat)
  exact .unsigned ⟨present, isDigit, value, Nat.one_le_iff_ne_zero.mpr notZero⟩

theorem parse_spelling
    (default : Protocol) {mapping : PortMapping}
    (containerPositive : mapping.containerPort ≠ 0) (hostPositive : mapping.hostPort ≠ 0) :
    parse default mapping.spelling = .ok mapping := by
  apply parse_of_writes
  rw [spelling, ← List.cons_append, ← List.append_assoc]
  exact .named (spells_decimal containerPositive) (spells_decimal hostPositive)
    Protocol.isNamed_name

end PortMapping

end RunManifest
