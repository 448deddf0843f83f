import PropertyKeys.OrderedMap

/-!
# Hints

A hint helps to complete the value of a key, or the key of a map: it lists values that can be
suggested, and providers that know where to find more.

## Main definitions

* `Hint`: the suggestions and the providers, each in the order of the document.
* `Provider.parameter?`: the value of a parameter of a provider.
* `Hint.provider?`: the first provider of a name.
-/

namespace PropertyKeys

/-- A value that can be suggested. -/
structure Suggestion where
  value : Text
  description? : Option Text := none
  deriving DecidableEq, Repr

/-- A source of further values, with its named parameters. -/
structure Provider where
  name : Text
  parameters : OrderedMap Text Text
  deriving DecidableEq, Repr

/-- The value of a parameter. -/
def Provider.parameter? (provider : Provider) (name : Text) : Option Text :=
  provider.parameters.get? name

/-- The suggestions and providers for the values of a key or for the keys of a map. -/
structure Hint where
  suggestions : List Suggestion := []
  providers : List Provider := []
  deriving DecidableEq, Repr

/-- Whether a hint offers nothing. -/
def Hint.isEmpty (hint : Hint) : Bool :=
  hint.suggestions.isEmpty && hint.providers.isEmpty

/-- The first provider of a name. -/
def Hint.provider? (hint : Hint) (name : Text) : Option Provider :=
  hint.providers.find? fun provider => provider.name == name

end PropertyKeys
