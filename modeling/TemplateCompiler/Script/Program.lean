import TemplateCompiler.Script.Name
import TemplateCompiler.Config.Basic

namespace TemplateCompiler.Script

/-- Gives arrays a `size` method unless they have one. -/
def arraySizePolyfill : String :=
  "if(!Array.prototype.size)\x7bArray.prototype.size=function()\x7breturn this.length;\x7d;\x7d"

/-- The value of its first argument, a function, or else its second argument: if the function
throws, or if its value is false and not zero. -/
def showHelper : String :=
  "var " ++ showName ++ "=function(g,f)\x7bvar v;try\x7bv=g();\x7dcatch(e)\x7breturn f;\x7d" ++
    "return v||v===0?v:f;\x7d;"

/-- Its argument, or an empty text for a missing value. -/
def textHelper : String :=
  "var " ++ textName ++ "=function(v)\x7breturn v==null?'':v;\x7d;"

def declaration (name : String) : String :=
  "var " ++ name ++ "=" ++ dataName ++ "." ++ name ++ ";"

def returnOutput : String :=
  "return " ++ outputName ++ ";"

/-- A whole script program, as its parts. -/
structure Program where
  /-- The variables read from the data, in the order of their declarations. -/
  hoisted : List String
  usesShow : Bool
  usesText : Bool
  body : String
  deriving DecidableEq, Repr

namespace Program

/-- The part of a program before its body. -/
def prologue (config : Config) (program : Program) : String :=
  "'use strict';" ++ (if config.arraySizeHelper then arraySizePolyfill else "") ++
    "var " ++ dataName ++ "=arguments[0]||\x7b\x7d," ++ outputName ++ "='';" ++
    String.join (program.hoisted.map declaration) ++
    (if program.usesShow then showHelper else "") ++
    (if program.usesText then textHelper else "")

/-- The text of a program: the body of a function whose argument is the data and whose result is
the rendered text. -/
def source (config : Config) (program : Program) : String :=
  program.prologue config ++ program.body ++ returnOutput

end Program

end TemplateCompiler.Script
