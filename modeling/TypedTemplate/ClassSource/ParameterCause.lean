import TypedTemplate.ClassSource.Cause

/-! Likely causes of a fault in the parameters of a lambda expression. -/
namespace TypedTemplate.ClassSource
open Reader

def parameterEnd : Reader Unit := do
  unless ← take "," do
    unless ← atSign ":" do failure

def plainParameter : Reader Unit := do
  discard name
  parameterEnd

def slashEnd : Reader Unit := do
  expect "/"
  parameterEnd

def starEnd : Reader Unit := expect "," <|> plainParameter

namespace Nesting

variable (nest : Nesting)

def defaultValue : Reader Unit := do
  expect "="
  match ← optional nest.expression with
  | some _ => return ()
  | none => if ← atAny [")", ","] then refuse (.parameter .missingDefault) else failure

def defaultParameter : Reader Unit := do
  discard name
  nest.defaultValue
  parameterEnd

def anyParameter : Reader Unit := do
  discard name
  discard (optional nest.defaultValue)
  parameterEnd

def plainParameters : Reader Unit := discard (many plainParameter nest.bound)

def somePlainParameters : Reader Unit := discard (oneOrMore plainParameter nest.bound)

def defaultParameters : Reader Unit := discard (many nest.defaultParameter nest.bound)

def someDefaultParameters : Reader Unit := discard (oneOrMore nest.defaultParameter nest.bound)

def anyParameters : Reader Unit := discard (many nest.anyParameter nest.bound)

def someParameters : Reader Unit := discard (oneOrMore nest.anyParameter nest.bound)

def plainSlash : Reader Unit := do
  nest.somePlainParameters
  slashEnd

def defaultSlash : Reader Unit := do
  nest.plainParameters
  nest.someDefaultParameters
  slashEnd

def slashed : Reader Unit := nest.plainSlash <|> nest.defaultSlash

def plainAfterDefault : Reader Unit := do
  nest.plainParameters
  nest.defaultSlash <|> nest.someDefaultParameters
  plainParameter
  refuse (.parameter .plainAfterDefault)

def parenthesizedNames : Reader Unit := do
  nest.plainParameters
  expect "("
  discard (commaList name nest.bound)
  expect ")"
  refuse (.parameter .parenthesized)

def leadingSlash : Reader Unit := do
  expect "/"
  expect ","
  refuse (.parameter .leadingSlash)

def secondSlash : Reader Unit := do
  nest.slashed
  nest.anyParameters
  expect "/"
  refuse (.parameter .secondSlash)

def slashAfterStar : Reader Unit := do
  discard (optional nest.slashed)
  nest.anyParameters
  expect "*"
  starEnd
  nest.anyParameters
  expect "/"
  refuse (.parameter .slashAfterStar)

def slashBeforeStar : Reader Unit := do
  nest.someParameters
  expect "/"
  expect "*"
  refuse (.parameter .slashBeforeStar)

def bareStar : Reader Unit := do
  expect "*"
  unless ← atSign ":" do
    expect ","
    unless ← atAny [":", "**"] do failure
  refuse (.parameter .bareStar)

def starDefault : Reader Unit := do
  expect "*"
  discard name
  expect "="
  refuse (.parameter .starDefault)

def secondStar : Reader Unit := do
  expect "*"
  starEnd
  nest.anyParameters
  expect "*"
  starEnd
  refuse (.parameter .secondStar)

/-- The parameter for the rest of the keys, with the causes to look for before it. -/
def spreadParameter : Reader Unit := do
  expect "**"
  let withDefault : Reader Unit := do
    discard name
    expect "="
    refuse (.parameter .spreadDefault)
  let followed : Reader Unit := do
    discard name
    expect ","
    unless (← atAny ["*", "**", "/"]) || (← optional name).isSome do failure
    refuse (.parameter .afterSpread)
  discard (ahead withDefault)
  discard (ahead followed)
  plainParameter

/-- The parameters from the first star, with the causes to look for before them. -/
def starParameters : Reader Unit := do
  discard (ahead bareStar)
  discard (ahead starDefault)
  discard (ahead nest.secondStar)
  let rest : Reader Unit := do
    expect "*"
    plainParameter
    nest.anyParameters
    discard (optional spreadParameter)
  let bare : Reader Unit := do
    expect "*"
    expect ","
    nest.someParameters
    discard (optional spreadParameter)
  rest <|> bare <|> spreadParameter

/-- The parameters before the first star. -/
def orderedParameters : Reader Unit := do
  let first : Reader Unit := do
    nest.plainSlash
    nest.plainParameters
  let second : Reader Unit := nest.defaultSlash
  let third : Reader Unit := nest.somePlainParameters
  first <|> second <|> third <|> pure ()
  nest.defaultParameters

/-- The causes to look for where the parameters of a lambda expression begin. -/
def parameterCause : Reader Unit := do
  let whole : Reader Unit := do
    nest.orderedParameters
    nest.starParameters
  if nest.alert then
    discard (ahead nest.plainAfterDefault)
    discard (ahead nest.parenthesizedNames)
    discard (ahead leadingSlash)
    discard (ahead nest.secondSlash)
    discard (ahead nest.slashAfterStar)
    discard (ahead nest.slashBeforeStar)
    discard (ahead whole)

end Nesting

end TypedTemplate.ClassSource
