import KuvaAI.Lib.TextCuts
import KuvaAI.Security.SyslogLedger

/-! Whether a frame tells what it was made from. Nothing in it is escaped, although the
format that the docstring names quotes the values and has no spaces in the other fields. -/
namespace KuvaAI.Syslog
open Python TextCuts

abbrev StructuredData := Option (Dict String (Dict String String))

structure Fields where
  appName : Option String
  procId : Option String
  msgId : Option String
  structuredData : StructuredData
  message : String

namespace Fields

def kwargs (f : Fields) : Dict String (Option String) :=
  ((Dict.empty.set "app_name" f.appName).set "proc_id" f.procId).set "msg_id" f.msgId

def frame (config : SyslogConfig) (timestamp hostname : String) (severity : Fin 8) (f : Fields) :
    Except Exn String :=
  formatMessage { config with structuredData := f.structuredData } timestamp hostname f.message severity
    f.kwargs

end Fields

def SameData (d e : StructuredData) : Prop :=
  ∀ id, ((d.getD .empty).get? id).map Dict.get? = ((e.getD .empty).get? id).map Dict.get?

/-- The same values; an absent field counts as "-". -/
structure Fields.Same (f g : Fields) : Prop where
  appName : orDash f.appName = orDash g.appName
  procId : orDash f.procId = orDash g.procId
  msgId : orDash f.msgId = orDash g.msgId
  structuredData : SameData f.structuredData g.structuredData
  message : f.message = g.message

section Texts

def paramText (param : String × String) : List Char :=
  param.1.toList ++ '=' :: '"' :: (param.2.toList ++ ['"'])

def elementText (element : String × Dict String String) : List Char :=
  '[' :: (element.1.toList ++ ' ' :: ([' '].intercalate (element.2.entries.map paramText) ++ [']']))

def elementsText (elements : List (String × Dict String String)) : List Char :=
  [' '].intercalate (elements.map elementText)

def dataText (data : StructuredData) : List Char :=
  match (data.getD .empty).entries with
  | [] => ['-']
  | element :: rest => elementsText (element :: rest)

theorem toList_formatStructuredData (config : SyslogConfig) :
    (formatStructuredData config).toList = dataText config.structuredData := by
  have params : ∀ entries : List (String × String),
      (entries.map fun param => param.1 ++ "=\"" ++ param.2 ++ "\"").map String.toList =
        entries.map paramText := by
    intro entries
    rw [List.map_map]
    exact List.map_congr_left fun param _ => by simp [paramText]
  have elements : ∀ entries : List (String × Dict String String),
      (entries.map fun element => "[" ++ element.1 ++ " " ++ " ".intercalate
        (element.2.entries.map fun param => param.1 ++ "=\"" ++ param.2 ++ "\"") ++ "]").map
          String.toList = entries.map elementText := by
    intro entries
    rw [List.map_map]
    refine List.map_congr_left fun element _ => ?_
    simp only [Function.comp, String.toList_append, String.toList_intercalate, params]
    simp [elementText]
  unfold formatStructuredData dataText
  generalize config.structuredData = data
  rcases data with _ | ⟨_ | ⟨element, rest⟩, nodup⟩
  · rfl
  · simp
  · exact String.toList_intercalate.trans (congrArg _ (elements (element :: rest)))

namespace Fields

variable (f : Fields)

def names : List Char :=
  (orDash f.appName).toList ++ ' ' :: ((orDash f.procId).toList ++ ' ' :: (orDash f.msgId).toList)

def content : List Char := dataText f.structuredData ++ ' ' :: f.message.toList

end Fields

def header (config : SyslogConfig) (timestamp hostname : String) (severity : Fin 8) : List Char :=
  "<".toList ++ (toString (config.facility.val * 8 + severity.val)).toList ++ ">1 ".toList ++
    timestamp.toList ++ "Z ".toList ++ hostname.toList ++ [' ']

theorem frame_eq (config : SyslogConfig) (timestamp hostname : String) (severity : Fin 8) (f : Fields) :
    f.frame config timestamp hostname severity = .ok (String.ofList
      (header config timestamp hostname severity ++ (f.names ++ ' ' :: f.content) ++ ['\n'])) := by
  have keys : f.kwargs.keys = messageFields := by
    simp [Fields.kwargs, messageFields, Dict.keys, Dict.set, Dict.empty, putEntry]
  have known : f.kwargs.keys.find? (· ∉ messageFields) = none := by
    rw [keys]
    decide
  have fields : f.kwargs.get? "app_name" = some f.appName ∧ f.kwargs.get? "proc_id" = some f.procId ∧
      f.kwargs.get? "msg_id" = some f.msgId := by
    simp [Fields.kwargs, Dict.get?_set]
  obtain ⟨app, proc, msg⟩ := fields
  unfold Fields.frame formatMessage
  rw [known, app, proc, msg]
  refine congrArg Except.ok (String.toList_injective ?_)
  have data := toList_formatStructuredData { config with structuredData := f.structuredData }
  simp [header, Fields.names, Fields.content, data]

end Texts

section Readings

/-- What reads as one element or several, which may be taken for one. -/
inductive Bracketed : List Char → Prop where
  | bare (id : List Char) : Bracketed ('[' :: (id ++ [' ', ']']))
  | param (id name value : List Char) :
      Bracketed ('[' :: (id ++ ' ' :: (name ++ '=' :: '"' :: (value ++ ['"', ']']))))

def ReadsAsData (part : List Char) : Prop := part = ['-'] ∨ Bracketed part

def oneElement (id : List Char) (params : Dict String String) : StructuredData :=
  some (Dict.empty.set (String.ofList id) params)

def oneParam (name value : List Char) : Dict String String :=
  Dict.empty.set (String.ofList name) (String.ofList value)

theorem dataText_bare (id : List Char) : dataText (oneElement id .empty) = '[' :: (id ++ [' ', ']']) := by
  simp [dataText, oneElement, elementsText, elementText, Dict.set, Dict.empty, putEntry]

theorem dataText_param (id name value : List Char) : dataText (oneElement id (oneParam name value)) =
    '[' :: (id ++ ' ' :: (name ++ '=' :: '"' :: (value ++ ['"', ']']))) := by
  simp [dataText, oneElement, oneParam, elementsText, elementText, paramText, Dict.set, Dict.empty, putEntry]

theorem elementsText_cons (element next : String × Dict String String)
    (rest : List (String × Dict String String)) :
    elementsText (element :: next :: rest) = elementText element ++ ' ' :: elementsText (next :: rest) := by
  simp [elementsText]

theorem params_text (param : String × String) (rest : List (String × String)) :
    ∃ value, [' '].intercalate ((param :: rest).map paramText) =
        param.1.toList ++ '=' :: '"' :: (value ++ ['"']) ∧
      (rest = [] ∧ value = param.2.toList ∨
        rest ≠ [] ∧ value ≠ param.2.toList ∧ ['=', '"'] <:+: value) := by
  induction rest generalizing param with
  | nil => exact ⟨param.2.toList, by simp [paramText], .inl ⟨rfl, rfl⟩⟩
  | cons next rest ih =>
    obtain ⟨value, text, _⟩ := ih next
    refine ⟨param.2.toList ++ '"' :: ' ' :: (next.1.toList ++ '=' :: '"' :: value), ?_, .inr ⟨?_, ?_, ?_⟩⟩
    · rw [List.map_cons] at text ⊢
      rw [List.map_cons, List.intercalate_cons_cons, text]
      simp [paramText]
    · exact List.cons_ne_nil next rest
    · simp
    · exact ⟨param.2.toList ++ '"' :: ' ' :: next.1.toList, value, by simp⟩

theorem bracketed_elementText (element : String × Dict String String) : Bracketed (elementText element) := by
  obtain ⟨id, ⟨_ | ⟨param, rest⟩, nodup⟩⟩ := element
  · exact .bare id.toList
  · obtain ⟨value, text, _⟩ := params_text param rest
    rw [elementText, text]
    simpa using Bracketed.param id.toList param.1.toList value

theorem bracketed_elementsText (element : String × Dict String String)
    (rest : List (String × Dict String String)) : Bracketed (elementsText (element :: rest)) := by
  induction rest generalizing element with
  | nil => simpa [elementsText] using bracketed_elementText element
  | cons next rest ih =>
    rw [elementsText_cons]
    obtain ⟨start, opened⟩ : ∃ start, elementText element = '[' :: start := ⟨_, rfl⟩
    have others := ih next
    generalize elementsText (next :: rest) = text at others ⊢
    cases others with
    | bare id => simpa [opened] using Bracketed.bare (start ++ ' ' :: '[' :: id)
    | param id name value => simpa [opened] using Bracketed.param (start ++ ' ' :: '[' :: id) name value

/-- Exactly what reads as structured data is the text of some. -/
theorem readsAsData_iff (part : List Char) : ReadsAsData part ↔ ∃ data, dataText data = part := by
  constructor
  · rintro (rfl | ⟨id⟩ | ⟨id, name, value⟩)
    · exact ⟨none, rfl⟩
    · exact ⟨_, dataText_bare id⟩
    · exact ⟨_, dataText_param id name value⟩
  · rintro ⟨data, rfl⟩
    rw [dataText]
    split
    · exact .inl rfl
    · exact .inr (bracketed_elementsText _ _)

end Readings

section Conditions

/-- No data, one element without parameters, or one with one parameter that can be told
from its text. -/
inductive PlainData (data : StructuredData) : List Char → Prop where
  | absent (empty : (data.getD .empty).entries = []) : PlainData data ['-']
  | bare {id params} (single : (data.getD .empty).entries = [(id, params)]) (empty : params.entries = []) :
      PlainData data ('[' :: (id.toList ++ [' ', ']']))
  | param {id params name value} (single : (data.getD .empty).entries = [(id, params)])
      (one : params.entries = [(name, value)]) (plainId : ' ' ∉ id.toList) (plainName : ' ' ∉ name.toList)
      (unquotedName : ¬ ['=', '"'] <:+: name.toList) (unquotedValue : ¬ ['=', '"'] <:+: value.toList) :
      PlainData data
        ('[' :: (id.toList ++ ' ' :: (name.toList ++ '=' :: '"' :: (value.toList ++ ['"', ']']))))

/-- Nothing else that stands at the start or after a space, and before one, reads as
structured data. -/
def OnlyReading (text message : List Char) : Prop :=
  ∀ before part after, text ++ ' ' :: message = before ++ (part ++ ' ' :: after) →
    before = [] ∨ before.getLast? = some ' ' → ReadsAsData part → before = [] ∧ part = text

/-- No newline in a frame, outside the data. -/
def Fields.Unbroken (timestamp hostname : String) (f : Fields) : Prop :=
  ∀ part ∈ [timestamp, hostname, orDash f.appName, orDash f.procId, orDash f.msgId, f.message],
    '\n' ∉ part.toList

structure Fields.Clear (timestamp hostname : String) (f : Fields) : Prop where
  appName : ' ' ∉ (orDash f.appName).toList.tail
  procId : orDash f.procId = " " ∨ ' ' ∉ (orDash f.procId).toList
  msgId : ' ' ∉ (orDash f.msgId).toList.dropLast
  data : ∃ text, PlainData f.structuredData text ∧ '\n' ∉ text ∧ OnlyReading text f.message.toList
  unbroken : f.Unbroken timestamp hostname

def OneLine (frame : Except Exn String) : Prop :=
  ∃ text, frame = .ok text ∧ text.toList.count '\n' = 1 ∧ text.toList.getLast? = some '\n'

/-- The frame is one line, and every call that makes it has the same values. -/
def Fields.Unambiguous (config : SyslogConfig) (timestamp hostname : String) (severity : Fin 8)
    (f : Fields) : Prop :=
  OneLine (f.frame config timestamp hostname severity) ∧
  ∀ g : Fields, g.frame config timestamp hostname severity = f.frame config timestamp hostname severity →
    g.Same f

theorem PlainData.text {data : StructuredData} {text : List Char} (plain : PlainData data text) :
    dataText data = text := by
  unfold dataText
  cases plain with
  | absent empty => rw [empty]
  | bare single empty => simp [single, elementsText, elementText, empty]
  | param single one => simp [single, elementsText, elementText, one, paramText]

theorem header_unbroken (config : SyslogConfig) (timestamp hostname : String) (severity : Fin 8) :
    '\n' ∉ header config timestamp hostname severity ↔ '\n' ∉ timestamp.toList ∧ '\n' ∉ hostname.toList := by
  have priority : '\n' ∉ Nat.toDigits 10 (config.facility.val * 8 + severity.val) := by
    intro member
    have digit := Nat.isDigit_of_mem_toDigits (by decide) (by decide) member
    exact absurd digit (by decide)
  simp [header, priority]

theorem unbroken_iff (config : SyslogConfig) (timestamp hostname : String) (severity : Fin 8) (f : Fields) :
    '\n' ∉ header config timestamp hostname severity ++ (f.names ++ ' ' :: f.content) ↔
      '\n' ∉ dataText f.structuredData ∧ f.Unbroken timestamp hostname := by
  have space : '\n' ≠ ' ' := by decide
  simp only [Fields.Unbroken, List.forall_mem_cons]
  simp only [List.mem_append, List.mem_cons, not_or, header_unbroken, Fields.names, Fields.content, space,
    not_false_eq_true, true_and]
  constructor
  · rintro ⟨⟨clock, host⟩, ⟨app, proc, msg⟩, data, message⟩
    exact ⟨data, clock, host, app, proc, msg, message, fun _ none => nomatch none⟩
  · rintro ⟨data, clock, host, app, proc, msg, message, _⟩
    exact ⟨⟨clock, host⟩, ⟨app, proc, msg⟩, data, message⟩

theorem oneLine_iff (line : List Char) : OneLine (.ok (String.ofList (line ++ ['\n']))) ↔ '\n' ∉ line := by
  have count : (line ++ ['\n']).count '\n' = line.count '\n' + 1 := by
    rw [List.count_append, List.count_singleton_self]
  rw [← List.count_eq_zero]
  constructor
  · rintro ⟨text, ended, one, _⟩
    obtain rfl := Except.ok.inj ended
    rw [String.toList_ofList, count] at one
    omega
  · intro none
    refine ⟨_, rfl, ?_, ?_⟩
    · rw [String.toList_ofList, count, none]
    · rw [String.toList_ofList, List.getLast?_concat]

theorem frame_inj {config : SyslogConfig} {timestamp hostname : String} {severity : Fin 8} {f g : Fields} :
    g.frame config timestamp hostname severity = f.frame config timestamp hostname severity ↔
      g.names ++ ' ' :: g.content = f.names ++ ' ' :: f.content := by
  rw [frame_eq, frame_eq]
  constructor
  · intro same
    have texts := congrArg String.toList (Except.ok.inj same)
    rw [String.toList_ofList, String.toList_ofList] at texts
    exact List.append_cancel_left (List.append_cancel_right texts)
  · intro same
    rw [same]

end Conditions

section Sufficient

variable {data other : StructuredData} {text message : List Char}

theorem sameData_of_entries (same : (other.getD .empty).entries = (data.getD .empty).entries) :
    SameData other data := by
  intro id
  rw [Dict.get?, Dict.get?, same]

def innerText (id : List Char) (params : List (String × String)) : List Char :=
  id ++ ' ' :: [' '].intercalate (params.map paramText)

theorem elementText_eq (id : String) (params : Dict String String) :
    elementText (id, params) = '[' :: (innerText id.toList params.entries ++ [']']) := by
  simp [elementText, innerText]

theorem quoted_ne_spaced (id name value other : List Char) :
    id ++ ' ' :: (name ++ '=' :: '"' :: (value ++ ['"'])) ≠ other ++ [' '] := by
  intro same
  have quoted : (id ++ ' ' :: (name ++ '=' :: '"' :: value)) ++ ['"'] = other ++ [' '] := by
    simpa using same
  have last := congrArg List.getLast? quoted
  rw [List.getLast?_concat, List.getLast?_concat] at last
  exact absurd last (by decide)

theorem inner_bare {id id' : List Char} {params : List (String × String)}
    (same : innerText id' params = id ++ [' ']) : params = [] ∧ id' = id := by
  cases params with
  | nil => exact ⟨rfl, List.append_cancel_right same⟩
  | cons param rest =>
    obtain ⟨value, text, _⟩ := params_text param rest
    rw [innerText, text] at same
    exact (quoted_ne_spaced _ _ _ _ same).elim

theorem inner_param {id id' name value : List Char} {params : List (String × String)} (plainId : ' ' ∉ id)
    (plainName : ' ' ∉ name) (unquotedName : ¬ ['=', '"'] <:+: name) (unquotedValue : ¬ ['=', '"'] <:+: value)
    (same : innerText id' params = id ++ ' ' :: (name ++ '=' :: '"' :: (value ++ ['"']))) :
    id' = id ∧ params = [(String.ofList name, String.ofList value)] := by
  cases params with
  | nil => exact (quoted_ne_spaced _ _ _ _ same.symm).elim
  | cons param rest =>
    obtain ⟨taken, text, whole⟩ := params_text param rest
    rw [innerText, text] at same
    have quoted : (id' ++ ' ' :: (param.1.toList ++ '=' :: '"' :: taken)) ++ ['"'] =
        (id ++ ' ' :: (name ++ '=' :: '"' :: value)) ++ ['"'] := by
      simpa using same
    rcases cut_cases (List.append_cancel_right quoted) with ⟨rfl, later⟩ | ⟨more, _, later⟩ | ⟨more, rfl, _⟩
    · obtain ⟨rfl, rfl⟩ := pair_unique (by decide) unquotedName unquotedValue later.symm
      rcases whole with ⟨rfl, rfl⟩ | ⟨_, _, quoted⟩
      · simp
      · exact (unquotedValue quoted).elim
    · have unmarked : ' ' ∉ name ++ ['=', '"'] := by simpa using plainName
      obtain ⟨rest, _, rfl⟩ := mark_after unmarked (by simpa using later)
      exact (unquotedValue ⟨rest ++ ' ' :: param.1.toList, taken, by simp⟩).elim
    · exact (plainId (List.mem_append_right _ List.mem_cons_self)).elim

theorem one_element (only : OnlyReading (dataText other) message) :
    (other.getD .empty).entries = [] ∨ ∃ id params, (other.getD .empty).entries = [(id, params)] := by
  cases entries : (other.getD .empty).entries with
  | nil => exact .inl rfl
  | cons element rest =>
    cases rest with
    | nil => exact .inr ⟨element.1, element.2, rfl⟩
    | cons next rest =>
      have text : dataText other = elementText element ++ ' ' :: elementsText (next :: rest) := by
        rw [dataText, entries]
        exact elementsText_cons element next rest
      have front := (only (elementText element ++ [' ']) (elementsText (next :: rest)) message (by simp [text])
        (.inr (by simp)) (.inr (bracketed_elementsText next rest))).1
      simp at front

theorem dataText_single {id : String} {params : Dict String String}
    (single : (data.getD .empty).entries = [(id, params)]) :
    dataText data = '[' :: (innerText id.toList params.entries ++ [']']) := by
  rw [dataText, single, ← elementText_eq]
  exact List.intercalate_singleton

theorem sameData_of_single {id id' : String} {params params' : Dict String String}
    (single : (data.getD .empty).entries = [(id, params)])
    (single' : (other.getD .empty).entries = [(id', params')]) (sameId : id'.toList = id.toList)
    (sameParams : params'.entries = params.entries) : SameData other data := by
  obtain rfl := String.toList_injective sameId
  obtain ⟨entries, _⟩ := params
  obtain ⟨entries', _⟩ := params'
  obtain rfl : entries' = entries := sameParams
  exact sameData_of_entries (single'.trans single.symm)

theorem sameData_of_plain (plain : PlainData data text) (only : OnlyReading text message)
    (same : dataText other = text) : SameData other data := by
  rcases one_element (same ▸ only) with none | ⟨id', params', single'⟩
  · have dash : text = ['-'] := by rw [← same, dataText, none]
    cases plain with
    | absent empty => exact sameData_of_entries (none.trans empty.symm)
    | bare => cases dash
    | param => cases dash
  · rw [dataText_single single'] at same
    cases plain with
    | absent => cases same
    | @bare id params single empty =>
      have closed : innerText id'.toList params'.entries ++ [']'] = (id.toList ++ [' ']) ++ [']'] := by
        simpa using same
      obtain ⟨empty', sameId⟩ := inner_bare (List.append_cancel_right closed)
      exact sameData_of_single single single' sameId (empty'.trans empty.symm)
    | @param id params name value single one plainId plainName unquotedName unquotedValue =>
      have closed : innerText id'.toList params'.entries ++ [']'] =
          (id.toList ++ ' ' :: (name.toList ++ '=' :: '"' :: (value.toList ++ ['"']))) ++ [']'] := by
        simpa using same
      obtain ⟨sameId, sameParams⟩ :=
        inner_param plainId plainName unquotedName unquotedValue (List.append_cancel_right closed)
      rw [String.ofList_toList, String.ofList_toList] at sameParams
      exact sameData_of_single single single' sameId (sameParams.trans one.symm)

theorem orDash_ne (field : Option String) : orDash field ≠ "" := by
  unfold orDash
  split
  · decide
  · decide
  · rename_i other
    rintro rfl
    exact other rfl

theorem toList_orDash_ne (field : Option String) : (orDash field).toList ≠ [] := by
  intro empty
  exact orDash_ne field (String.toList_injective empty)

theorem reads_of_data (data : StructuredData) : ReadsAsData (dataText data) :=
  (readsAsData_iff _).mpr ⟨data, rfl⟩

theorem data_not_spaced (data : StructuredData) (rest rest' : List Char) :
    dataText data ++ rest ≠ ' ' :: rest' := by
  intro same
  have reads := reads_of_data data
  generalize dataText data = text at reads same
  rcases reads with rfl | ⟨id⟩ | ⟨id, name, value⟩ <;> simp at same

namespace Fields

variable {f g : Fields} {timestamp hostname : String}

theorem Clear.determined (clear : f.Clear timestamp hostname) :
    Determined ' ' (orDash f.appName).toList (orDash f.procId).toList (orDash f.msgId).toList := by
  refine determined_of_unmarked clear.appName ?_ clear.msgId
  exact clear.procId.imp_left fun single => by rw [single]; rfl

theorem Clear.same (clear : f.Clear timestamp hostname)
    (same : g.names ++ ' ' :: g.content = f.names ++ ' ' :: f.content) : g.Same f := by
  obtain ⟨text, plain, _, only⟩ := clear.data
  have ours : f.content = text ++ ' ' :: f.message.toList := by rw [Fields.content, plain.text]
  rcases cut_cases same with ⟨names, content⟩ | ⟨more, _, content⟩ | ⟨more, names, content⟩
  · rw [ours] at content
    have data : dataText g.structuredData = text :=
      (only [] _ g.message.toList content.symm (.inl rfl) (reads_of_data _)).2
    obtain ⟨app, proc, msg⟩ := clear.determined _ _ _ (toList_orDash_ne _) (toList_orDash_ne _)
      (toList_orDash_ne _) names
    rw [Fields.content, data] at content
    have message := (List.cons.inj (List.append_cancel_left content)).2
    exact ⟨String.toList_injective app, String.toList_injective proc, String.toList_injective msg,
      sameData_of_plain plain only data, String.toList_injective message⟩
  · rw [ours] at content
    have front := (only (more ++ [' ']) (dataText g.structuredData) g.message.toList
      (by simpa [Fields.content] using content) (.inr (by simp)) (reads_of_data _)).1
    simp at front
  · have nonempty : more ≠ [] := by
      rintro rfl
      exact data_not_spaced _ _ _ content
    have fourth := clear.determined.no_fourth (toList_orDash_ne g.appName) (toList_orDash_ne g.procId)
      nonempty (c := (orDash g.msgId).toList)
    exact (fourth (by simpa [Fields.names] using names.symm)).elim

end Fields

end Sufficient

section Necessary

variable {data : StructuredData} {id : String} {params : Dict String String}

theorem sameData_param {id' name value : List Char} (single : (data.getD .empty).entries = [(id, params)])
    (same : SameData (oneElement id' (oneParam name value)) data) :
    id' = id.toList ∧ params.get? (String.ofList name) = some (String.ofList value) := by
  have here := same (String.ofList id')
  have theirs : ((oneElement id' (oneParam name value)).getD .empty).get? (String.ofList id') =
      some (oneParam name value) := Dict.get?_set_same _ _ _
  rw [theirs, Option.map_some, Dict.get?, single, List.lookup_cons] at here
  by_cases known : String.ofList id' = id
  · rw [beq_iff_eq.mpr known] at here
    have values := congrFun (Option.some.inj here) (String.ofList name)
    refine ⟨by rw [← known, String.toList_ofList], values.symm.trans ?_⟩
    exact Dict.get?_set_same _ _ _
  · rw [beq_eq_false_iff_ne.mpr known] at here
    cases here

theorem get?_one {name value : String} (one : params.entries = [(name, value)]) {key : String}
    {found : String} (here : params.get? key = some found) : key = name ∧ found = value := by
  have member := Dict.mem_of_get? here
  rw [one, List.mem_singleton] at member
  exact ⟨congrArg Prod.fst member, congrArg Prod.snd member⟩

theorem plain_of_told (message : List Char) (only : OnlyReading (dataText data) message)
    (told : ∀ other, dataText other = dataText data → SameData other data) :
    ∃ text, PlainData data text := by
  rcases one_element only with none | ⟨id, params, single⟩
  · exact ⟨_, .absent none⟩
  · have text := dataText_single single
    have alternative : ∀ id' name value : List Char, innerText id.toList params.entries =
        id' ++ ' ' :: (name ++ '=' :: '"' :: (value ++ ['"'])) →
        id' = id.toList ∧ params.get? (String.ofList name) = some (String.ofList value) := by
      intro id' name value inner
      refine sameData_param single (told _ ?_)
      rw [dataText_param, text, inner]
      simp
    match entries : params.entries with
    | [] => exact ⟨_, .bare single entries⟩
    | [(name, value)] =>
      have inner : innerText id.toList params.entries =
          id.toList ++ ' ' :: (name.toList ++ '=' :: '"' :: (value.toList ++ ['"'])) := by
        simp [innerText, entries, paramText]
      rw [inner] at alternative
      refine ⟨_, .param single entries (fun spaced => ?_) (fun spaced => ?_) ?_ ?_⟩
      · obtain ⟨start, more, split⟩ := List.append_of_mem spaced
        have shorter := (alternative start (more ++ ' ' :: name.toList) value.toList (by simp [split])).1
        simp [split] at shorter
      · obtain ⟨start, more, split⟩ := List.append_of_mem spaced
        have longer := (alternative (id.toList ++ ' ' :: start) more value.toList (by simp [split])).1
        simp at longer
      · rintro ⟨start, more, split⟩
        have found := (alternative id.toList start (more ++ '=' :: '"' :: value.toList) (by simp [← split])).2
        have shorter := congrArg String.toList (get?_one entries found).1
        simp [← split] at shorter
      · rintro ⟨start, more, split⟩
        have found := (alternative id.toList (name.toList ++ '=' :: '"' :: start) more (by simp [← split])).2
        have longer := congrArg String.toList (get?_one entries found).1
        simp at longer
    | param :: next :: rest =>
      obtain ⟨value, taken, whole⟩ := params_text param (next :: rest)
      have inner : innerText id.toList params.entries =
          id.toList ++ ' ' :: (param.1.toList ++ '=' :: '"' :: (value ++ ['"'])) := by
        rw [innerText, entries, taken]
      have found := (alternative _ _ _ inner).2
      have first : params.get? param.1 = some param.2 := by
        rw [Dict.get?, entries, List.lookup_cons_self]
      rw [String.ofList_toList, first] at found
      rcases whole with ⟨none, _⟩ | ⟨_, other, _⟩
      · cases none
      · refine (other ?_).elim
        rw [Option.some.inj found, String.toList_ofList]

theorem orDash_some {name : List Char} (nonempty : name ≠ []) :
    (orDash (some (String.ofList name))).toList = name := by
  unfold orDash
  split
  · rename_i none
    cases none
  · rename_i empty
    have nothing := congrArg String.toList (Option.some.inj empty)
    rw [String.toList_ofList] at nothing
    exact (nonempty nothing).elim
  · rename_i found
    cases found
    exact String.toList_ofList

namespace Fields

variable {f : Fields} {timestamp hostname : String}
  (told : ∀ g : Fields, g.names ++ ' ' :: g.content = f.names ++ ' ' :: f.content → g.Same f)

include told

theorem determined_of_told :
    Determined ' ' (orDash f.appName).toList (orDash f.procId).toList (orDash f.msgId).toList := by
  intro a b c nonemptyA nonemptyB nonemptyC same
  have other := told { f with
    appName := some (String.ofList a)
    procId := some (String.ofList b)
    msgId := some (String.ofList c) } (by
      simp only [Fields.names, Fields.content, orDash_some nonemptyA, orDash_some nonemptyB,
        orDash_some nonemptyC, same])
  have app := congrArg String.toList other.appName
  have proc := congrArg String.toList other.procId
  have msg := congrArg String.toList other.msgId
  rw [orDash_some nonemptyA] at app
  rw [orDash_some nonemptyB] at proc
  rw [orDash_some nonemptyC] at msg
  exact ⟨app, proc, msg⟩

theorem only_of_told : OnlyReading (dataText f.structuredData) f.message.toList := by
  intro before part after split place reads
  obtain ⟨data, rfl⟩ := (readsAsData_iff part).mp reads
  rcases place with rfl | spaced
  · have other := told { f with structuredData := data, message := String.ofList after } (by
      simp [Fields.names, Fields.content, split])
    have message := congrArg String.toList other.message
    rw [String.toList_ofList] at message
    rw [← message, List.nil_append] at split
    exact ⟨rfl, (List.append_cancel_right split).symm⟩
  · obtain ⟨front, rfl⟩ := List.getLast?_eq_some_iff.mp spaced
    have nonempty : (orDash f.msgId).toList ++ ' ' :: front ≠ [] := by simp
    have other := told { f with
      msgId := some (String.ofList ((orDash f.msgId).toList ++ ' ' :: front))
      structuredData := data
      message := String.ofList after } (by
        simp only [Fields.names, Fields.content, split, orDash_some nonempty, String.toList_ofList]
        simp)
    have longer := congrArg String.toList other.msgId
    rw [orDash_some nonempty] at longer
    simp at longer

theorem data_of_told (data : StructuredData) (same : dataText data = dataText f.structuredData) :
    SameData data f.structuredData := by
  have other := told { f with structuredData := data } (by simp only [Fields.names, Fields.content, same])
  exact other.structuredData

theorem clear_of_told (unbroken : '\n' ∉ dataText f.structuredData ∧ f.Unbroken timestamp hostname) :
    f.Clear timestamp hostname := by
  obtain ⟨app, proc, msg⟩ := (determined_iff (toList_orDash_ne _) (toList_orDash_ne _) (toList_orDash_ne _)).mp
    (determined_of_told told)
  obtain ⟨text, plain⟩ := plain_of_told f.message.toList (only_of_told told) (data_of_told told)
  refine ⟨app, ?_, msg, ⟨text, plain, ?_, ?_⟩, unbroken.2⟩
  · exact proc.imp_left fun single => String.toList_injective single
  · rw [← plain.text]
    exact unbroken.1
  · rw [← plain.text]
    exact only_of_told told

end Fields

end Necessary

/-- Nothing is escaped: a call is told from the others by its frame exactly if none of its
values has the marks of the format in it. -/
theorem frame_unambiguous_iff (config : SyslogConfig) (timestamp hostname : String) (severity : Fin 8)
    (f : Fields) : f.Unambiguous config timestamp hostname severity ↔ f.Clear timestamp hostname := by
  have line : OneLine (f.frame config timestamp hostname severity) ↔
      '\n' ∉ dataText f.structuredData ∧ f.Unbroken timestamp hostname := by
    rw [frame_eq, oneLine_iff, unbroken_iff]
  constructor
  · rintro ⟨one, told⟩
    exact Fields.clear_of_told (fun g same => told g (frame_inj.mpr same)) (line.mp one)
  · intro clear
    obtain ⟨text, plain, unbroken, _⟩ := clear.data
    rw [← plain.text] at unbroken
    exact ⟨line.mpr ⟨unbroken, clear.unbroken⟩, fun g same => clear.same (frame_inj.mp same)⟩

theorem onlyReading_of_unmarked {message : List Char} (dash : '-' ∉ message) (bracket : '[' ∉ message) :
    OnlyReading ['-'] message := by
  intro before part after split _ reads
  obtain ⟨first, rest, rfl, opens⟩ : ∃ first rest, part = first :: rest ∧ (first = '-' ∨ first = '[') := by
    rcases reads with rfl | ⟨id⟩ | ⟨id, name, value⟩
    · exact ⟨'-', [], rfl, .inl rfl⟩
    · exact ⟨'[', _, rfl, .inr rfl⟩
    · exact ⟨'[', _, rfl, .inr rfl⟩
  match before with
  | [] =>
    obtain ⟨rfl, _⟩ := List.cons.inj split
    rcases reads with single | bracketed
    · exact ⟨rfl, single⟩
    · cases bracketed
  | x :: before =>
    have later : first ∈ ' ' :: message := by
      have rest : ' ' :: message = before ++ (first :: rest ++ ' ' :: after) := (List.cons.inj split).2
      simp [rest]
    rcases opens with rfl | rfl
    · simp [dash] at later
    · simp [bracket] at later

example : Fields.Clear "2024-05-01T10:00:00" "edge" ⟨some "api", none, some "AUTH", none, "root denied"⟩ :=
  ⟨by decide, .inr (by decide), by decide,
    ⟨['-'], .absent rfl, by decide, onlyReading_of_unmarked (by decide) (by decide)⟩,
    by unfold Fields.Unbroken; decide⟩

def denied : Fields := ⟨some "api", none, some "AUTH", none, "- root denied"⟩

def retitled : Fields := ⟨some "api", none, some "AUTH -", none, "root denied"⟩

def forged : Fields := ⟨some "api", none, some "AUTH", none, "root denied\n<134>1 root admitted"⟩

/-- Two calls with one frame, and a message that is a frame of its own. -/
theorem denied_ambiguous :
    (retitled.frame auditConfig "2024-05-01T10:00:00" "edge" 6 =
        denied.frame auditConfig "2024-05-01T10:00:00" "edge" 6 ∧
      retitled.message ≠ denied.message ∧
      ¬ denied.Unambiguous auditConfig "2024-05-01T10:00:00" "edge" 6) ∧
    ∃ text, forged.frame auditConfig "2024-05-01T10:00:00" "edge" 6 = .ok text ∧
      text.toList.count '\n' = 2 := by
  have same : retitled.frame auditConfig "2024-05-01T10:00:00" "edge" 6 =
      denied.frame auditConfig "2024-05-01T10:00:00" "edge" 6 := frame_inj.mpr (by decide)
  have differ : retitled.message ≠ denied.message := by decide
  refine ⟨⟨same, differ, fun unambiguous => differ (unambiguous.2 retitled same).message⟩, ?_⟩
  refine ⟨_, frame_eq .., ?_⟩
  rw [String.toList_ofList]
  decide

end KuvaAI.Syslog
