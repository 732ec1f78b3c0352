namespace PageObject

inductive Strategy where
  | css
  | accessId
  | classChain
  | uiAutomator
deriving DecidableEq, Repr

namespace Strategy

def all : List Strategy := [.css, .accessId, .classChain, .uiAutomator]

def property : Strategy → String
  | .css => "css"
  | .accessId => "accessid"
  | .classChain => "classchain"
  | .uiAutomator => "uiautomator"

def factory : Strategy → String
  | .css => "byCss"
  | .accessId => "byAccessibilityId"
  | .classChain => "byClassChain"
  | .uiAutomator => "byUiAutomator"

def ofProperty? (name : String) : Option Strategy :=
  all.find? fun strategy => strategy.property = name

def supported : String := ", ".intercalate (all.map property)

theorem ofProperty?_property (strategy : Strategy) :
    ofProperty? strategy.property = some strategy := by
  cases strategy <;> decide

end Strategy

end PageObject
