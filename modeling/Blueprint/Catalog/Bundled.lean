import Blueprint.Catalog.Basic

/-!
The catalog that every other one extends. Ids count up from zero in the order of the names.
-/

namespace Blueprint.Catalog

/-- Gives the names the ids from zero on. -/
def numbered (names : List String) : OrderedMap UInt16 :=
  .ofList (names.zipIdx.map fun (name, id) => (name, .ofNat id))

def itemNames : List String := [
  "copper", "lead", "metaglass", "graphite", "sand", "coal", "titanium", "thorium", "scrap",
  "silicon", "plastanium", "phase-fabric", "surge-alloy", "spore-pod", "blast-compound",
  "pyratite", "beryllium", "tungsten", "oxide", "carbide", "fissile-matter", "dormant-cyst"]

def blockNames : List String := [
  "air", "spawn", "cliff", "deep-water", "water", "tainted-water", "deep-tainted-water",
  "darksand-tainted-water", "sand-water", "darksand-water", "tar", "slag", "space", "empty-tile",
  "stone", "crater-stone", "char", "basalt", "hotrock", "magmarock", "sand-floor", "darksand",
  "dirt", "mud", "dacite", "rhyolite", "rhyolite-crater", "rough-rhyolite", "regolith",
  "yellow-stone", "red-ice", "grass", "salt", "snow", "ice", "ice-snow", "shrubs", "spore-moss",
  "moss", "metal-floor", "metal-floor-damaged", "dark-panel-1", "dark-panel-2", "dark-panel-3",
  "dark-panel-4", "dark-panel-5", "dark-panel-6", "dark-metal", "pebbles", "tendrils",
  "ore-copper", "ore-lead", "ore-scrap", "ore-coal", "ore-titanium", "ore-thorium",
  "graphite-press", "multi-press", "silicon-smelter", "silicon-crucible", "kiln",
  "plastanium-compressor", "phase-weaver", "surge-smelter", "cryofluid-mixer", "pyratite-mixer",
  "blast-mixer", "melter", "separator", "disassembler", "spore-press", "pulverizer",
  "coal-centrifuge", "incinerator", "copper-wall", "copper-wall-large", "titanium-wall",
  "titanium-wall-large", "plastanium-wall", "plastanium-wall-large", "thorium-wall",
  "thorium-wall-large", "phase-wall", "phase-wall-large", "surge-wall", "surge-wall-large",
  "door", "door-large", "scrap-wall", "scrap-wall-large", "scrap-wall-huge",
  "scrap-wall-gigantic", "thruster", "mender", "mend-projector", "overdrive-projector",
  "overdrive-dome", "force-projector", "shock-mine", "conveyor", "titanium-conveyor",
  "plastanium-conveyor", "armored-conveyor", "junction", "bridge-conveyor", "phase-conveyor",
  "sorter", "inverted-sorter", "router", "distributor", "overflow-gate", "underflow-gate",
  "mass-driver", "mechanical-pump", "rotary-pump", "impulse-pump", "conduit", "pulse-conduit",
  "plated-conduit", "liquid-router", "liquid-container", "liquid-tank", "liquid-junction",
  "bridge-conduit", "phase-conduit", "power-node", "power-node-large", "surge-tower", "diode",
  "battery", "battery-large", "combustion-generator", "thermal-generator", "steam-generator",
  "differential-generator", "rtg-generator", "solar-panel", "large-solar-panel",
  "thorium-reactor", "impact-reactor", "power-source", "power-void", "mechanical-drill",
  "pneumatic-drill", "laser-drill", "blast-drill", "water-extractor", "cultivator",
  "oil-extractor", "core-shard", "core-foundation", "core-nucleus", "vault", "container",
  "unloader", "duo", "scatter", "scorch", "hail", "wave", "lancer", "arc", "parallax", "swarmer",
  "salvo", "segment", "tsunami", "fuse", "ripple", "cyclone", "foreshadow", "spectre",
  "meltdown", "command-center", "ground-factory", "air-factory", "naval-factory",
  "additive-reconstructor", "multiplicative-reconstructor", "exponential-reconstructor",
  "tetrative-reconstructor", "repair-point", "repair-turret", "payload-conveyor",
  "payload-router", "payload-propulsion-tower", "payload-source", "payload-void", "item-source",
  "item-void", "liquid-source", "liquid-void", "illuminator", "launch-pad",
  "interplanetary-accelerator", "message", "switch", "micro-processor", "logic-processor",
  "hyper-processor", "memory-cell", "memory-bank", "logic-display", "large-logic-display",
  "canvas", "reinforced-message", "world-processor", "world-cell", "world-message"]

def liquidNames : List String := [
  "water", "slag", "oil", "cryofluid", "neoplasm", "arkycite", "gallium", "ozone", "hydrogen",
  "nitrogen", "cyanogen"]

def unitNames : List String := [
  "dagger", "mace", "fortress", "scepter", "reign", "nova", "pulsar", "quasar", "vela", "corvus",
  "crawler", "atrax", "spiroct", "arkyid", "toxopid", "flare", "horizon", "zenith", "antumbra",
  "eclipse", "mono", "poly", "mega", "quad", "oct", "risso", "minke", "bryde", "sei", "omura",
  "retusa", "oxynoe", "cyerce", "aegires", "navanax", "alpha", "beta", "gamma", "stell", "locus",
  "precept", "vanquish", "conquer", "merui", "cleroi", "anthicus", "tecta", "collaris", "elude",
  "avert", "obviate", "quell", "disrupt"]

def bundled : Catalog where
  name := none
  items := numbered itemNames
  blocks := numbered blockNames
  liquids := numbered liquidNames
  units := numbered unitNames

end Blueprint.Catalog
