import AddressPool.Address.Parser
import AddressPool.Log
import AddressPool.Proofs.Ip.RoundTrip

namespace AddressPool

-- What a message tells of can be seen from its first words.

def Opens (phrase message : String) : Prop := phrase.toList <+: message.toList

instance (phrase message : String) : Decidable (Opens phrase message) :=
  inferInstanceAs (Decidable (_ <+: _))

def announcements : List String := ["Reserved", "Released", "Managing", "Network reset"]

def Notice.isAside : Notice → Bool
  | treatedAsPath _ | unknownTag _ | unreadableRecord _ _ | noIpHeader _ | exhausted _
  | outside _ _ | alreadyReserved _ => true
  | managing _ _ | resetTo _ | reserved _ _ | released _ _ | trailingBytes _ | loadedJob _
  | missingJob _ | allocating _ | refused _ _ | tally _ _ | failed _ => false

@[simp] theorem toString_text (text : String) : toString text = text := rfl

theorem Ip.text_head (ip : Ip) :
    ∃ first rest, ip.text.toList = first :: rest ∧ (first = ':' ∨ IsHex first ∨ first = '.') := by
  have read := Ip.read_written ip
  obtain ⟨first, rest, shape⟩ := List.exists_cons_of_ne_nil (Ip.ne_nil_of_read read)
  refine ⟨first, rest, by rw [text, String.toList_ofList, shape], Ip.read_chars read first ?_⟩
  rw [shape]
  exact List.mem_cons_self

theorem Ip.text_injective {one other : Ip} (same : one.text = other.text) : one = other := by
  have read := Ip.read_written one
  rw [String.ofList_injective same, Ip.read_written other] at read
  exact (Option.some.inj read).symm

theorem aside_opens {notice : Notice} (aside : notice.isAside = true) {phrase : String}
    (announced : phrase ∈ announcements) : ¬Opens phrase notice.message := by
  simp only [announcements, List.mem_cons, List.not_mem_nil, or_false] at announced
  unfold Notice.message
  cases notice with
  | alreadyReserved ip =>
    obtain ⟨first, rest, shape, alphabet⟩ := ip.text_head
    have foreign : ∀ c, ¬(c = ':' ∨ Ip.IsHex c ∨ c = '.') → c ≠ first := by
      intro c outside same
      subst same
      exact outside alphabet
    have letters : 'R' ≠ first ∧ 'M' ≠ first ∧ 'N' ≠ first :=
      ⟨foreign 'R' (by decide), foreign 'M' (by decide), foreign 'N' (by decide)⟩
    rcases announced with rfl | rfl | rfl | rfl <;> simp [Opens, shape, letters]
  | treatedAsPath | unknownTag | unreadableRecord | noIpHeader | exhausted | outside =>
    rcases announced with rfl | rfl | rfl | rfl <;> simp [Opens]
  | managing | resetTo | reserved | released | trailingBytes | loadedJob | missingJob | allocating
  | refused | tally | failed => cases aside

theorem readLog_aside {input : String} {notice : Notice}
    (said : notice ∈ AddressText.readLog input) : notice.isAside = true := by
  unfold AddressText.readLog at said
  split at said
  · cases List.mem_singleton.mp said
    rfl
  · cases said

-- What is put out, spelled out: how lines and remarks are written, and which remarks a display
-- adds to those that every display shows.

def Text.unlines : List String → String
  | [] => ""
  | line :: rest => line ++ "\n" ++ unlines rest

namespace Display

def mark : (color : Bool) → Level → String
  | false, .error => "ERROR"
  | false, .warn => "WARN "
  | false, .info => "INFO "
  | false, .debug => "DEBUG"
  | false, .trace => "TRACE"
  | true, .error => "\x1b[1m\x1b[31mERROR\x1b[39m\x1b[0m"
  | true, .warn => "\x1b[1m\x1b[33mWARN \x1b[39m\x1b[0m"
  | true, .info => "\x1b[1m\x1b[32mINFO \x1b[39m\x1b[0m"
  | true, .debug => "\x1b[1m\x1b[94mDEBUG\x1b[39m\x1b[0m"
  | true, .trace => "\x1b[1m\x1b[97mTRACE\x1b[39m\x1b[0m"

def speaker : (verbose color : Bool) → Source → String
  | false, false, _ => ""
  | false, true, _ => "\x1b[90m\x1b[39m"
  | true, false, .addresses => " [sockaddr]"
  | true, false, .networks => " [netalloc]"
  | true, false, .program => " [addrspace]"
  | true, true, .addresses => "\x1b[90m [sockaddr]\x1b[39m"
  | true, true, .networks => "\x1b[90m [netalloc]\x1b[39m"
  | true, true, .program => "\x1b[90m [addrspace]\x1b[39m"

def record (display : Display) (level : Level) (source : Source) (message : String) : String :=
  mark display.color level ++ speaker display.verbose display.color source ++ ": " ++ message

theorem record_line (display : Display) (level : Level) (source : Source) {message : String}
    (line : '\n' ∉ message.toList) : '\n' ∉ (display.record level source message).toList := by
  have marked : ∀ color, '\n' ∉ (mark color level).toList := by
    cases level <;> decide
  have spoken : ∀ verbose color, '\n' ∉ (speaker verbose color source).toList := by
    cases source <;> decide
  simp [record, marked, spoken, line]

def Asks (display : Display) : Level → Prop
  | .error | .warn | .info => True
  | .debug => display.verbose = true ∨ display.trace = true
  | .trace => display.trace = true

-- Lines, in their order, with nothing among them but remarks for those who ask for more.
inductive Amid (display : Display) : List String → List String → Prop where
  | nil : Amid display [] []
  | told {lines all : List String} (text : String) (rest : Amid display lines all) :
      Amid display (text :: lines) (text :: all)
  | aside {lines all : List String} {level : Level} (talkative : level = .debug ∨ level = .trace)
      (asked : display.Asks level) (source : Source) (message : String)
      (rest : Amid display lines all) :
      Amid display lines (display.record level source message :: all)

theorem Amid.eq_of_quiet {display : Display} {lines all : List String}
    (amid : display.Amid lines all) (brief : display.verbose = false)
    (untraced : display.trace = false) : all = lines := by
  induction amid with
  | nil => rfl
  | told text rest ih => rw [ih]
  | aside talkative asked source message rest ih =>
    rcases talkative with rfl | rfl <;> simp [Asks, brief, untraced] at asked

section
variable (display : Display)

theorem levelText_eq (level : Level) : display.levelText level = mark display.color level := by
  obtain ⟨verbose, trace, color⟩ := display
  cases color <;> cases level <;> rfl

theorem sourceText_eq (source : Source) :
    display.sourceText source = speaker display.verbose display.color source := by
  obtain ⟨verbose, trace, color⟩ := display
  cases verbose <;> cases color <;> cases source <;> rfl

theorem noticeText_eq (notice : Notice) :
    display.noticeText notice = display.record notice.level notice.source notice.message := by
  rw [noticeText, levelText_eq, sourceText_eq, record]

theorem isShown_iff (level : Level) : display.isShown level = true ↔ display.Asks level := by
  obtain ⟨verbose, trace, color⟩ := display
  cases verbose <;> cases trace <;> cases level <;> simp [Asks, isShown, limit, Level.rank]

theorem output_eq (transcript : Transcript) :
    display.output transcript = Text.unlines (transcript.events.filterMap display.eventText) := by
  unfold output
  induction transcript.events.filterMap display.eventText with
  | nil => rfl
  | cons line lines ih => rw [List.map_cons, String.join_cons, ih, Text.unlines]

theorem filterMap_lines {α : Type} (text : α → String) (items : List α) :
    (items.map fun item => Event.line (text item)).filterMap display.eventText =
      items.map text := by
  rw [List.filterMap_map, ← List.filterMap_eq_map']
  rfl

end

@[simp] def shows : Event → Bool
  | .line _ => true
  | .notice notice =>
    match notice.level with
    | .error | .warn | .info => true
    | .debug | .trace => false

attribute [simp] Notice.level

theorem asks_of_shows {notice : Notice} (shown : shows (.notice notice) = true)
    (display : Display) : display.Asks notice.level := by
  unfold shows at shown
  cases level : notice.level <;> simp_all [Asks]

theorem talkative_of_hidden {notice : Notice} (hidden : shows (.notice notice) = false) :
    notice.level = .debug ∨ notice.level = .trace := by
  unfold shows at hidden
  cases level : notice.level <;> simp_all

theorem eventText_asked {display : Display} {notice : Notice}
    (asked : display.Asks notice.level) : display.eventText (.notice notice) =
      some (display.record notice.level notice.source notice.message) := by
  rw [← noticeText_eq]
  exact if_pos ((display.isShown_iff _).mpr asked)

theorem eventText_unasked {display : Display} {notice : Notice}
    (unasked : ¬display.Asks notice.level) : display.eventText (.notice notice) = none :=
  if_neg fun shown => unasked ((display.isShown_iff _).mp shown)

theorem eventText_shown {notice : Notice} (shown : shows (.notice notice) = true)
    (display : Display) : display.eventText (.notice notice) =
      some (display.record notice.level notice.source notice.message) :=
  eventText_asked (asks_of_shows shown display)

theorem amid_shown (display : Display) (events : List Event) :
    display.Amid ((events.filter shows).filterMap display.eventText)
      (events.filterMap display.eventText) := by
  induction events with
  | nil => exact .nil
  | cons event events ih =>
    cases event with
    | line text => exact .told text ih
    | notice notice =>
      cases shown : shows (.notice notice) with
      | true =>
        rw [List.filter_cons_of_pos shown,
          List.filterMap_cons_some (eventText_shown shown display),
          List.filterMap_cons_some (eventText_shown shown display)]
        exact .told _ ih
      | false =>
        rw [List.filter_cons_of_neg (Bool.eq_false_iff.mp shown)]
        by_cases asked : display.Asks notice.level
        · rw [List.filterMap_cons_some (eventText_asked asked)]
          exact .aside (talkative_of_hidden shown) asked _ _ ih
        · rwa [List.filterMap_cons_none (eventText_unasked asked)]

theorem output_quiet {display : Display} (brief : display.verbose = false)
    (untraced : display.trace = false) (transcript : Transcript) :
    display.output transcript =
      Text.unlines ((transcript.events.filter shows).filterMap display.eventText) := by
  rw [output_eq, (amid_shown display transcript.events).eq_of_quiet brief untraced]

end Display
end AddressPool
