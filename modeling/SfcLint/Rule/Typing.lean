/-
# Rules about types

Props, events and references that are declared without types.
-/

import SfcLint.Rule.Basic
import SfcLint.Script.Props
import SfcLint.Script.TypeText

namespace SfcLint.Rule

open Pattern

/-! ## Props -/

/-- The name of a macro, where it starts to be used. -/
def macroName (name : String) : Pattern := all [freshRoot, name, blanks]

/-- The arguments of the macro that a hit of `macroName` names, unless type arguments come first or
there is no call. -/
def untypedArguments? (code : Text) (hit : Hit) : Option Text :=
  if code[hit.stop]? = some '(' then (Script.spanAt? code hit.stop).map (·.body) else none

/-- Props that the macro declares without types. -/
def untypedMacroProps (component : Component) (code : Text) : List Suspect :=
  let untyped := ((macroName "defineProps").hits code).filter fun hit =>
    (untypedArguments? code hit).any fun arguments => !arguments.includes "PropType"
  untyped.map fun hit =>
    .certain (component.scriptPosition hit.start) .high
      "defineProps() called without TypeScript types - eliminates compile-time validation"
      ("Use typed props: defineProps<\x7b propName: string; count: number \x7d>() or " ++
        "withDefaults(defineProps<\x7b...\x7d>(), \x7b...\x7d)")

/-- The member describes a prop by an object without a type. -/
def lacksType (entry : Script.Entry) : Bool :=
  entry.kind == .property && entry.value.head? == some '\x7b' &&
    !Text.includes (entry.value.filter (· != ' ')) "type:"

/-- A prop that the option describes without a type. -/
def untypedMember? (component : Component) (offset : Nat) (entry : Script.Entry) : Option Suspect :=
  match entry.key with
  | some key =>
      if lacksType entry then
        let key := String.ofList key
        some (.certain (component.scriptPosition (offset + entry.offset)) .medium
          s!"Prop '{key}' lacks type definition"
          ("Add type: " ++ key ++ ": \x7b type: String, required: true \x7d or use " ++
            "Composition API with TypeScript"))
      else none
  | none => none

/-- What the `props` option declares without types. -/
def untypedOptionProps (component : Component) (declaration : Script.PropsDeclaration) :
    Except Script.Failure (List Suspect) :=
  match declaration.kind with
  | .array => .ok [.certain (component.scriptPosition declaration.start) .medium
      "Props declared as an array lack type definitions"
      "Use object syntax: props: \x7b name: \x7b type: String, required: true \x7d \x7d"]
  | _ => do
      let entries ← Script.objectEntries declaration.body
      let offset := declaration.stop - 1 - declaration.body.length
      return entries.filterMap (untypedMember? component offset)

/-- A prop of any type. -/
def anyType : Pattern := all [freshName, "type", blanks, ":", blanks, "any", nameEnds]

/-- Props are declared without types. -/
def untypedProps : Rule := onScript fun component code => do
  let options := (Script.propsDeclarations code).filter fun declaration =>
    Text.startsWith (code.drop declaration.start) "props"
  let declared ← options.mapM (untypedOptionProps component)
  return untypedMacroProps component code ++ declared.flatten ++
    atHits anyType .high "Prop uses 'any' type - defeats type safety purpose"
      ("Use specific types: String, Number, Boolean, Array, Object, or custom constructor " ++
        "functions") component code

/-! ## Events -/

/-- The `emits` option, up to its value. -/
def emitsOption : Pattern := all [freshRoot, "emits", blanks, ":", blanks, Script.beforeLiteral]

/-- A call that emits an event with a literal name. -/
def emitCall : Pattern :=
  all [freshName, optional "$", "emit", blanks, "(", blanks, one (among "'\""),
    capture "event" (some1 (outside "'\"")), one (among "'\"")]

/-- The macro that declares events with types. -/
def typedEmits : Pattern := all [freshRoot, "defineEmits", blanks, "<"]

/-- A call that emits an event that is not declared with types. -/
def emitSuspect (component : Component) (hit : Hit) : Suspect :=
  let event := String.ofList (hit.group "event")
  .certain (component.scriptPosition hit.start) .medium
    s!"emit('{event}') call lacks type safety" "Use typed defineEmits with proper payload types"

/-- Events are declared without types, or emitted without such a declaration. -/
def untypedEmits : Rule := inScript fun component code =>
  let calls := ((macroName "defineEmits").hits code).filter fun hit =>
    (untypedArguments? code hit).isSome
  let (objects, lists) := (emitsOption.hits code).partition fun hit => hit.rest.head? == some '\x7b'
  let declared := !calls.isEmpty || !objects.isEmpty || typedEmits.occursIn code
  (calls.map fun hit => .certain (component.scriptPosition hit.start) .high
      "defineEmits() called without TypeScript types - no payload type safety"
      ("Use typed emits: defineEmits<\x7b change: [id: number]; " ++
        "update: [value: string] \x7d>()")) ++
    (lists.map fun hit => .certain (component.scriptPosition hit.start) .medium
      "Options API emits array lacks payload type definitions"
      ("Use object syntax: emits: \x7b eventName: (payload) => boolean \x7d or switch to " ++
        "Composition API with TypeScript")) ++
    if declared then [] else (emitCall.hits code).map (emitSuspect component)

/-! ## References -/

/-- A reference made of a word. -/
def referenceTo (word : String) : Pattern :=
  all [freshRoot, "ref", blanks, "(", blanks, word, blanks, ")"]

/-- A reference with a type and without a value. -/
def emptyReference : Pattern :=
  all [freshRoot, "ref", blanks, "<",
    capture "type"
      (plus (alt (one (outside "<>()")) (all ["<", many (outside "<>()"), ">"]))),
    ">", blanks, "(", blanks, ")"]

/-- A reference with a type that starts without a value. -/
def emptyReference? (component : Component) (hit : Hit) : Option Suspect :=
  let type := Text.strip (hit.group "type")
  if type.includes "undefined" then none
  else
    let name := String.ofList type
    let value := Script.initialValue type
    some (.certain (component.scriptPosition hit.start) .low
      s!"ref<{name}>() without initial value results in {name} | undefined"
      s!"Provide initial value: ref<{name}>({value}) or type as ref<{name} | undefined>()")

/-- The types of elements and components. -/
def elementType : Pattern :=
  any [all ["HTML", many Text.isWordChar, "Element"], all ["SVG", many Text.isWordChar, "Element"],
    all ["InstanceType", blanks, "<"], "ComponentPublicInstance"]

/-- The declaration of a reference with a type. -/
def typedReference (name : Text) : Pattern :=
  all [freshRoot, words ["const", "let"], blanks1, literal name, blanks, "=", blanks,
    words ["ref", "shallowRef"], blanks, "<",
    capture "type"
      (plus (alt (one (outside "<>")) (all ["<", many (outside "<>"), ">"]))),
    ">"]

/-- The call that takes a reference to an element, with its type. -/
def typedTemplateReference (name : Text) : Pattern :=
  all ["useTemplateRef", blanks, "<", some1 (outside ">"), ">", blanks, "(", blanks,
    one (among "'\""), literal name, one (among "'\"")]

/-- The reference to an element has the type of an element or of nothing. -/
def isTypedReference (code name : Text) : Bool :=
  match (typedReference name).first? code with
  | some hit =>
      let type := hit.group "type"
      elementType.occursIn type && type.includes "null"
  | none => (typedTemplateReference name).occursIn code

/-- The function that sets a component up. -/
def setupOption : Pattern :=
  all [freshRoot, "setup", blanks, optional (all [":", blanks]), Script.beforeFunction]

/-- The component is set up by a function. -/
def isComposed (component : Component) : Bool :=
  component.logic.any fun logic => logic.segments.any (·.setup) || setupOption.occursIn logic.text

/-- A reference to an element without its type. -/
def elementReference? (code : Text) (node : Node) : Option Suspect :=
  (node.attribute? "ref").bind fun reference =>
    match reference.expression with
    | some (c :: value) =>
        let name := Text.strip (c :: value)
        if isTypedReference code name then none
        else
          let name := String.ofList name
          some (.certain reference.position .medium
            s!"Template ref '{name}' lacks HTMLElement | null typing"
            s!"Declare with type: const {name} = ref<HTMLElement | null>(null)")
    | _ => none

/-- References without types. -/
def refTypeInferenceIssues : Rule := inScript fun component code =>
  atHits (referenceTo "null") .medium
      "ref(null) without explicit type leads to incorrect null handling"
      "Add explicit type: ref<string | null>(null) or ref<string>(undefined)" component code ++
    (emptyReference.hits code).filterMap (emptyReference? component) ++
    (if isComposed component then component.elements.filterMap (elementReference? code) else []) ++
    atHits (referenceTo "undefined") .low "ref(undefined) may indicate incorrect type inference"
      "Use ref<T | undefined>() or provide proper initial value" component code

end SfcLint.Rule
