import BrowserPilot.Browser.Countermeasures
import BrowserPilot.Browser.Profile
import BrowserPilot.Json.Printer
import BrowserPilot.Text.Replace

/-!
# The init script

The script that runs in every frame before any script of the page. It is put
together from a block for each group of countermeasures, with placeholders for
what depends on the profile.
-/

namespace BrowserPilot.InitScript

/-! ## Blocks -/

def hideAutomation : List String := [
  "Object.defineProperty(Navigator.prototype, 'webdriver', \x7b get: () => undefined, configurable: true \x7d);",
  "",
  "for (const key of Object.keys(window)) \x7b",
  "    if (/^cdc_|^\\$cdc_|^__playwright|^_playwright|^__pwInitScripts|^__webdriver/.test(key)) \x7b",
  "        try \x7b delete window[key]; \x7d catch (e) \x7b\x7d",
  "    \x7d",
  "\x7d",
  "for (const key of ['_playwright', '__playwright', '__pwInitScripts', '__webdriver_evaluate', '__selenium_unwrapped']) \x7b",
  "    try \x7b delete window[key]; \x7d catch (e) \x7b\x7d",
  "\x7d",
  "",
  "if (!window.chrome) window.chrome = \x7b\x7d;",
  "if (!window.chrome.runtime) window.chrome.runtime = \x7b\x7d;",
  "if (!window.chrome.app) window.chrome.app = \x7b isInstalled: false \x7d;",
  "if (!window.chrome.csi) window.chrome.csi = function () \x7b\x7d;",
  "if (!window.chrome.loadTimes) window.chrome.loadTimes = function () \x7b\x7d;"]

def spoofNavigator : List String := [
  "const __fakePlugins = [",
  "    \x7b name: 'PDF Viewer', filename: 'internal-pdf-viewer', description: 'Portable Document Format' \x7d,",
  "    \x7b name: 'Chrome PDF Viewer', filename: 'internal-pdf-viewer', description: 'Portable Document Format' \x7d,",
  "    \x7b name: 'Chromium PDF Viewer', filename: 'internal-pdf-viewer', description: 'Portable Document Format' \x7d,",
  "    \x7b name: 'Microsoft Edge PDF Viewer', filename: 'internal-pdf-viewer', description: 'Portable Document Format' \x7d,",
  "    \x7b name: 'WebKit built-in PDF', filename: 'internal-pdf-viewer', description: 'Portable Document Format' \x7d,",
  "].map((p) => \x7b",
  "    const plugin = Object.create(Plugin.prototype);",
  "    for (const [key, value] of Object.entries(Object.assign(\x7b length: 1 \x7d, p))) \x7b",
  "        Object.defineProperty(plugin, key, \x7b value: value, enumerable: true \x7d);",
  "    \x7d",
  "    return plugin;",
  "\x7d);",
  "const __pluginArray = Object.create(PluginArray.prototype);",
  "__fakePlugins.forEach((p, i) => \x7b __pluginArray[i] = p; \x7d);",
  "Object.defineProperty(__pluginArray, 'length', \x7b get: () => __fakePlugins.length \x7d);",
  "__pluginArray.item = (i) => __fakePlugins[i] || null;",
  "__pluginArray.namedItem = (name) => __fakePlugins.find((p) => p.name === name) || null;",
  "__pluginArray.refresh = () => \x7b\x7d;",
  "Object.defineProperty(Navigator.prototype, 'plugins', \x7b get: () => __pluginArray, configurable: true \x7d);",
  "",
  "Object.defineProperty(Navigator.prototype, 'languages', \x7b get: () => __LANGUAGES__, configurable: true \x7d);",
  "Object.defineProperty(Navigator.prototype, 'language', \x7b get: () => __LANGUAGES__[0], configurable: true \x7d);",
  "Object.defineProperty(Navigator.prototype, 'platform', \x7b get: () => __PLATFORM__, configurable: true \x7d);",
  "",
  "if (window.navigator.permissions && window.navigator.permissions.query) \x7b",
  "    const __originalQuery = window.navigator.permissions.query.bind(window.navigator.permissions);",
  "    window.navigator.permissions.query = (parameters) =>",
  "        parameters && parameters.name === 'notifications'",
  "            ? Promise.resolve(\x7b state: Notification.permission, onchange: null \x7d)",
  "            : __originalQuery(parameters);",
  "\x7d"]

def maskFingerprint : List String := [
  "const __patchWebGL = (proto) => \x7b",
  "    if (!proto) return;",
  "    const getParameter = proto.getParameter;",
  "    proto.getParameter = function (parameter) \x7b",
  "        if (parameter === 37445) return 'Intel Inc.';                 // UNMASKED_VENDOR_WEBGL",
  "        if (parameter === 37446) return 'Intel Iris OpenGL Engine';   // UNMASKED_RENDERER_WEBGL",
  "        return getParameter.apply(this, arguments);",
  "    \x7d;",
  "\x7d;",
  "__patchWebGL(window.WebGLRenderingContext && WebGLRenderingContext.prototype);",
  "__patchWebGL(window.WebGL2RenderingContext && WebGL2RenderingContext.prototype);",
  "",
  "if (window.CanvasRenderingContext2D) \x7b",
  "    const getImageData = CanvasRenderingContext2D.prototype.getImageData;",
  "    CanvasRenderingContext2D.prototype.getImageData = function () \x7b",
  "        const imageData = getImageData.apply(this, arguments);",
  "        const data = imageData.data;",
  "        for (let i = 0; i < data.length; i += 4) \x7b",
  "            const noise = Math.floor(Math.random() * (2 * __CANVAS_NOISE__ + 1)) - __CANVAS_NOISE__;",
  "            data[i] = Math.min(255, Math.max(0, data[i] + noise));",
  "        \x7d",
  "        return imageData;",
  "    \x7d;",
  "\x7d",
  "",
  "const __AudioCtx = window.AudioContext || window.webkitAudioContext;",
  "if (__AudioCtx) \x7b",
  "    const createOscillator = __AudioCtx.prototype.createOscillator;",
  "    __AudioCtx.prototype.createOscillator = function () \x7b",
  "        const oscillator = createOscillator.apply(this, arguments);",
  "        oscillator.frequency.value = oscillator.frequency.value + (Math.random() * 2 - 1) * __AUDIO_NOISE__;",
  "        return oscillator;",
  "    \x7d;",
  "\x7d",
  "",
  "Object.defineProperty(Screen.prototype, 'availWidth', \x7b get: function () \x7b return this.width; \x7d, configurable: true \x7d);",
  "Object.defineProperty(Screen.prototype, 'availHeight', \x7b get: function () \x7b return this.height - __SCREEN_INSET__; \x7d, configurable: true \x7d);"]

def maskHardware : List String := [
  "Object.defineProperty(Navigator.prototype, 'getBattery', \x7b get: () => undefined, configurable: true \x7d);",
  "Object.defineProperty(Navigator.prototype, 'connection', \x7b",
  "    get: () => (\x7b effectiveType: '4g', rtt: 50, downlink: 10, saveData: false \x7d),",
  "    configurable: true,",
  "\x7d);"]

/-- The text of a block: an empty line, its lines, and a line end. -/
def blockText (lines : List String) : String := "\n" ++ "\n".intercalate lines ++ "\n"

def blocks (c : Countermeasures) : List (List String) :=
  (if c.hidesAutomation then [hideAutomation] else []) ++ (if c.spoofsNavigator then [spoofNavigator] else []) ++
    (if c.masksFingerprint then [maskFingerprint] else []) ++ (if c.masksHardware then [maskHardware] else [])

def template (c : Countermeasures) : String := "\n".intercalate ((blocks c).map blockText)

/-! ## Values -/

/-- The height that the system takes of the screen. -/
def screenInset (platform : String) : Nat :=
  match platform with
  | "Win32" => 40
  | "MacIntel" => 25
  | _ => 0

def canvasNoise : Nat := 1

def audioNoise : Binary64 := .ofRatio 1 10000

def values (p : Profile) : List (String × String) := [
  ("__LANGUAGES__", Json.render .spaced (.arr (p.languages.map .str))),
  ("__PLATFORM__", Json.render .spaced (.str p.platform)),
  ("__SCREEN_INSET__", toString (screenInset p.platform)),
  ("__CANVAS_NOISE__", toString canvasNoise),
  ("__AUDIO_NOISE__", audioNoise.text .report)]

/-- The script for a profile; one function, so that no name gets out of it. -/
def build (p : Profile) (c : Countermeasures) : String :=
  "(() => \x7b\n" ++ String.ofList (Text.replaceEach (values p) (template c).toList) ++ "\n\x7d)();\n"

end BrowserPilot.InitScript
