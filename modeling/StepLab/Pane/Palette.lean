import StepLab.Screen.Style

/-! # Colours by what they are used for -/

set_option autoImplicit false

namespace StepLab.Palette

def text : Color := .rgb 205 214 244

def active : Color := .rgb 137 180 250

def attention : Color := .rgb 250 179 135

def muted : Color := .rgb 108 112 134

def calm : Color := .rgb 166 227 161

def ended : Color := .rgb 243 139 168

def opcode : Color := .rgb 148 226 213

def number : Color := .rgb 250 179 135

def focusedBorder : Color := .rgb 249 226 175

def border : Color := .rgb 108 112 134

def bar : Color := .rgb 50 50 70

def cursor : Color := .rgb 250 179 135

def selection : Color := .rgb 137 180 250

def pointer : Color := .rgb 245 194 231

end StepLab.Palette
